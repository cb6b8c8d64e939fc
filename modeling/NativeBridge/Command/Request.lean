/-!
# Requests on the command line

The words of a command line as one request: to generate, to inspect, to show help or to show the
version. An option takes the next word as its value, or what follows an equals sign, or, if it is
one letter, the rest of its own word. A word that begins with a hyphen is no value.
-/

namespace NativeBridge.Command

inductive Setting where
  | catalogue
  | out
  | config
  | suffix
  | runtimeCrate
  deriving DecidableEq, Repr, Inhabited

def Setting.all : List Setting := [.catalogue, .out, .config, .suffix, .runtimeCrate]

namespace Setting

def name : Setting → String
  | .catalogue => "catalogue"
  | .out => "out"
  | .config => "config"
  | .suffix => "suffix"
  | .runtimeCrate => "runtime-crate"

def letter? : Setting → Option Char
  | .catalogue => some 'c'
  | .out => some 'o'
  | _ => none

def isPath : Setting → Bool
  | .catalogue | .out | .config => true
  | _ => false

end Setting

abbrev Settings := List (Setting × String)

inductive Subcommand where
  | generate
  | inspect
  deriving DecidableEq, Repr, Inhabited

def Subcommand.all : List Subcommand := [.generate, .inspect]

namespace Subcommand

def name : Subcommand → String
  | .generate => "generate"
  | .inspect => "inspect"

def settings : Subcommand → List Setting
  | .generate => Setting.all
  | .inspect => [.catalogue, .config]

def required : Subcommand → List Setting
  | .generate => [.catalogue, .out]
  | .inspect => [.catalogue]

end Subcommand

inductive HelpTopic where
  | program
  | subcommand (sub : Subcommand)
  | help
  deriving DecidableEq, Repr, Inhabited

inductive Request where
  | generate (catalogue out : String) (config suffix runtimeCrate : Option String)
  | inspect (catalogue : String) (config : Option String)
  | help (topic : HelpTopic)
  | version
  deriving DecidableEq, Repr, Inhabited

inductive UsageFault where
  | unexpected (word : String)
  | noValue (setting : Setting)
  | repeated (setting : Setting)
  | missing (setting : Setting)
  | noSubcommand
  deriving DecidableEq, Repr, Inhabited

def UsageFault.message : UsageFault → String
  | .unexpected word => "unexpected argument '" ++ word ++ "'"
  | .noValue setting => "a value is required for '--" ++ setting.name ++ "'"
  | .repeated setting => "the argument '--" ++ setting.name ++ "' cannot be used multiple times"
  | .missing setting => "the argument '--" ++ setting.name ++ "' is required"
  | .noSubcommand => "a subcommand is required"

/-! ## Options of a subcommand -/

inductive Parsed where
  | settings (values : Settings)
  | help
  deriving DecidableEq, Repr, Inhabited

/-- Whether a word cannot be a value, because it begins like an option. -/
def looksLikeOption (word : String) : Bool :=
  match word.toList with
  | '-' :: _ :: _ => true
  | _ => false

def addSetting (values : Settings) (setting : Setting) (value : String) :
    Except UsageFault Settings :=
  if setting.isPath && value.isEmpty then .error (.noValue setting)
  else if (values.lookup setting).isSome then .error (.repeated setting)
  else .ok (values ++ [(setting, value)])

def splitEquals (text : List Char) : String × Option String :=
  let name := text.takeWhile (· != '=')
  match text.dropWhile (· != '=') with
  | _ :: value => (String.ofList name, some (String.ofList value))
  | [] => (String.ofList name, none)

inductive WordReading where
  | done
  | value (setting : Setting) (value : String)
  | pending (setting : Setting)
  | help
  | version
  deriving DecidableEq, Repr, Inhabited

def readLetters (allowed : List Setting) (hasVersion : Bool) (word : String) :
    List Char → Except UsageFault WordReading
  | [] => .ok .done
  | 'v' :: rest => readLetters allowed hasVersion word rest
  | 'h' :: _ => .ok .help
  | c :: rest =>
      if hasVersion && c == 'V' then .ok .version
      else match allowed.find? (·.letter? == some c) with
        | some setting =>
            match rest with
            | [] => .ok (.pending setting)
            | '=' :: value => .ok (.value setting (String.ofList value))
            | value => .ok (.value setting (String.ofList value))
        | none => .error (.unexpected word)

def readLong (allowed : List Setting) (hasVersion : Bool) (word : String) (text : List Char) :
    Except UsageFault WordReading :=
  match splitEquals text with
  | ("verbose", none) => .ok .done
  | ("help", none) => .ok .help
  | (name, value) =>
      if hasVersion && name == "version" && value.isNone then .ok .version
      else match allowed.find? (·.name == name), value with
        | some setting, some value => .ok (.value setting value)
        | some setting, none => .ok (.pending setting)
        | none, _ => .error (.unexpected word)

def readWord (allowed : List Setting) (hasVersion : Bool) (word : String) :
    Except UsageFault WordReading :=
  match word.toList with
  | '-' :: '-' :: text => readLong allowed hasVersion word text
  | '-' :: c :: letters => readLetters allowed hasVersion word (c :: letters)
  | _ => .error (.unexpected word)

def readSettings (allowed : List Setting) : Settings → List String → Except UsageFault Parsed
  | values, [] => .ok (.settings values)
  | values, word :: rest =>
      if word = "--" then
        match rest with
        | [] => .ok (.settings values)
        | next :: _ => .error (.unexpected next)
      else
        match readWord allowed false word with
        | .error fault => .error fault
        | .ok .done => readSettings allowed values rest
        | .ok .help => .ok .help
        | .ok .version => .error (.unexpected word)
        | .ok (.value setting value) =>
            match addSetting values setting value with
            | .ok values => readSettings allowed values rest
            | .error fault => .error fault
        | .ok (.pending setting) =>
            match rest with
            | [] => .error (.noValue setting)
            | value :: rest =>
                if looksLikeOption value then .error (.noValue setting)
                else match addSetting values setting value with
                  | .ok values => readSettings allowed values rest
                  | .error fault => .error fault

/-! ## Whole command lines -/

def ofSettings (sub : Subcommand) (values : Settings) : Except UsageFault Request := do
  let need (setting : Setting) : Except UsageFault String :=
    match values.lookup setting with
    | some value => .ok value
    | none => .error (.missing setting)
  match sub with
  | .generate =>
      return .generate (← need .catalogue) (← need .out) (values.lookup .config)
        (values.lookup .suffix) (values.lookup .runtimeCrate)
  | .inspect => return .inspect (← need .catalogue) (values.lookup .config)

def readTopic : List String → Except UsageFault Request
  | [] => .ok (.help .program)
  | [word] =>
      match Subcommand.all.find? (·.name == word) with
      | some sub => .ok (.help (.subcommand sub))
      | none => if word = "help" then .ok (.help .help) else .error (.unexpected word)
  | _ :: word :: _ => .error (.unexpected word)

def parse : List String → Except UsageFault Request
  | [] => .error .noSubcommand
  | word :: rest =>
      match Subcommand.all.find? (·.name == word) with
      | some sub =>
          match readSettings sub.settings [] rest with
          | .ok (.settings values) => ofSettings sub values
          | .ok .help => .ok (.help (.subcommand sub))
          | .error fault => .error fault
      | none =>
          if word = "help" then readTopic rest
          else match readWord [] true word with
            | .ok .help => .ok (.help .program)
            | .ok .version => .ok .version
            | .ok _ => parse rest
            | .error fault => .error fault

end NativeBridge.Command
