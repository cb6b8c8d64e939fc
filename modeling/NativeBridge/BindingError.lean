import NativeBridge.Text.Quoted

/-!
# Errors of the generator

Why a member, a catalogue, the options or the output was refused, as causes; the wording is in
`message` alone. Texts that are not UTF-8, JSON or TOML, and files that cannot be read or written,
have no wording of their own, and neither has a panic, which ends the program.
-/

namespace NativeBridge

inductive RenderFault where
  | notIdentifier (name : String)
  | notType (reference : String)
  | unknownPrimitive (name : String)
  | interfaceReceiver (signature : String)
  | staticIndexer (signature : String)
  | noParameter (signature : String) (index : Nat)
  | doesNotParse (what : String)
  | unknownModule (name : String)
  deriving DecidableEq, Repr, Inhabited

inductive CatalogueFault where
  | duplicateEntry (reference : String)
  | unknownType (reference : String)
  | duplicateModule (ident : String)
  deriving DecidableEq, Repr, Inhabited

inductive OptionFault where
  | suffix (text : String)
  | aggregate (text : String)
  | runtimePath (text : String)
  | runtimeCrate (text : String)
  deriving DecidableEq, Repr, Inhabited

inductive BindingError where
  | unsupportedOperator (name declaring : String)
  | unsupportedKind (type method : String)
  | unsupportedSpecialName (name declaring : String)
  | invalidIndexer (name declaring : String) (params : Nat)
  | catalogue (fault : CatalogueFault)
  | io
  | json
  | config
  | invalidOption (fault : OptionFault)
  | render (fault : RenderFault)
  | panic
  deriving DecidableEq, Repr, Inhabited

def RenderFault.message : RenderFault → String
  | .notIdentifier name => Text.quoted name ++ " is not a Rust identifier"
  | .notType reference => reference ++ " is not a Rust type"
  | .unknownPrimitive name => "unknown primitive " ++ name
  | .interfaceReceiver signature => signature ++ ": interface receivers have no payload type"
  | .staticIndexer signature => signature ++ ": static indexers have no Rust form"
  | .noParameter signature index => signature ++ ": no parameter " ++ toString index
  | .doesNotParse what => what ++ " does not parse"
  | .unknownModule name => "aggregate names unknown module " ++ name

def CatalogueFault.message : CatalogueFault → String
  | .duplicateEntry reference => "duplicate catalogue entry for " ++ reference
  | .unknownType reference => "unknown type " ++ reference
  | .duplicateModule ident => "duplicate binding module " ++ ident

def OptionFault.message : OptionFault → String
  | .suffix text => "invalid suffix " ++ Text.quoted text
  | .aggregate text => "invalid aggregate name " ++ Text.quoted text
  | .runtimePath text => "invalid runtime crate path " ++ Text.quoted text
  | .runtimeCrate text => "runtime crate " ++ Text.quoted text

namespace BindingError

def name : BindingError → String
  | .unsupportedOperator .. => "UnsupportedOperator"
  | .unsupportedKind .. => "UnsupportedKind"
  | .unsupportedSpecialName .. => "UnsupportedSpecialName"
  | .invalidIndexer .. => "InvalidIndexer"
  | .catalogue _ => "Catalogue"
  | .io => "Io"
  | .json => "Json"
  | .config => "Config"
  | .invalidOption _ => "InvalidOption"
  | .render _ => "Render"
  | .panic => "Panic"

def message : BindingError → String
  | .unsupportedOperator name declaring => "Unsupported operator " ++ name ++ " on " ++ declaring
  | .unsupportedKind type method => "Unsupported value kind for " ++ type ++ " in " ++ method
  | .unsupportedSpecialName name declaring =>
      "Unsupported special-named method " ++ name ++ " on " ++ declaring
  | .invalidIndexer name declaring params =>
      "Invalid indexer " ++ name ++ " on " ++ declaring ++ ": " ++ toString params ++ " parameters"
  | .catalogue fault => "Catalogue error: " ++ fault.message
  | .io => "I/O error"
  | .json => "JSON error"
  | .config => "Config error"
  | .invalidOption fault => "Invalid option: " ++ fault.message
  | .render fault => "Render error: " ++ fault.message
  | .panic => "panic"

/-- Whether the error concerns one member alone, so that the others go on. -/
def isMemberError : BindingError → Bool
  | .unsupportedOperator .. | .unsupportedKind .. | .unsupportedSpecialName .. | .invalidIndexer ..
  | .render .. => true
  | _ => false

end BindingError

end NativeBridge
