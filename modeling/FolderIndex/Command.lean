import FolderIndex.Double.Decimal

namespace FolderIndex

/-! The command line: which words it takes, and what they ask for. -/

/-- What an option sets. -/
inductive OptionKey where
  | watch
  | extension
  | database
  | interval
  | limit
  | host
  | port
  | verbose
deriving DecidableEq, Repr

namespace OptionKey

def longName : OptionKey → String
  | watch => "--watch"
  | extension => "--ext"
  | database => "--db"
  | interval => "--interval"
  | limit => "--limit"
  | host => "--host"
  | port => "--port"
  | verbose => "--verbose"

def shortName? : OptionKey → Option Char
  | watch => some 'w'
  | verbose => some 'v'
  | _ => none

/-- Whether the option is followed by a value. -/
def takesValue : OptionKey → Bool
  | verbose => false
  | _ => true

end OptionKey

inductive CommandName where
  | scan
  | search
  | documents
  | watch
  | serve
deriving DecidableEq, Repr

namespace CommandName

def ofString? : String → Option CommandName
  | "scan" => some .scan
  | "search" => some .search
  | "documents" => some .documents
  | "watch" => some .watch
  | "serve" => some .serve
  | _ => none

/-- The options of a command. -/
def options : CommandName → List OptionKey
  | scan => [.watch, .extension, .database, .verbose]
  | search => [.database, .limit, .verbose]
  | documents => [.database]
  | watch => [.watch, .extension, .database, .interval, .verbose]
  | serve => [.watch, .extension, .database, .interval, .host, .port, .limit, .verbose]

/-- How many words a command takes that are not options. -/
def operands : CommandName → Nat
  | search => 1
  | _ => 0

end CommandName

/-- A command with its options. -/
structure Command where
  name : CommandName
  query : String
  watch : List String
  extensions : List String
  database? : Option String
  interval : Double
  limit? : Option Int
  host : String
  port : Int
  verbose : Bool
deriving DecidableEq, Repr

namespace Command

/-- Options with their values in the order in which they are given, and the other words. -/
structure Words where
  options : List (OptionKey × String)
  operands : List String
deriving DecidableEq, Repr

def Words.withOptions (added : List (OptionKey × String)) (words : Words) : Words :=
  { words with options := added ++ words.options }

/-- The options in one word, and the one among them, if any, whose value is the next word. -/
abbrev OptionWord := List (OptionKey × String) × Option OptionKey

/-- The letters of a word behind its single dash. A value follows its letter at once, or in
the next word. -/
def readLetters? (known : List OptionKey) : List Char → Option OptionWord
  | [] => some ([], none)
  | letter :: rest =>
      match known.find? (·.shortName? = some letter) with
      | none => none
      | some key =>
          if key.takesValue then
            if rest.isEmpty then some ([], some key)
            else some ([(key, String.ofList rest)], none)
          else (readLetters? known rest).map fun word => ((key, "") :: word.1, word.2)

/-- A word that starts with a dash: a long name, with or without a value behind an equals
sign, or letters. Long names are never shortened. -/
def readOptionWord? (known : List OptionKey) (word : String) : Option OptionWord :=
  let text := word.toList
  let name := String.ofList (text.takeWhile (· ≠ '='))
  let value? := if text.contains '=' then some (String.ofList ((text.dropWhile (· ≠ '=')).drop 1)) else none
  match known.find? (·.longName = name), value? with
  | some key, some value => if key.takesValue then some ([(key, value)], none) else none
  | some key, none => if key.takesValue then some ([], some key) else some ([(key, "")], none)
  | none, _ => if ['-', '-'].isPrefixOf text then none else readLetters? known (text.drop 1)

/-- Whether a word holds options: a dash, and more behind it. -/
def isOptionWord (word : String) : Bool :=
  match word.toList with
  | '-' :: _ :: _ => true
  | _ => false

/-- The words of a command. Options and other words may be mixed; behind two dashes there are
no more options. -/
def readWords? (known : List OptionKey) : List String → Option Words
  | [] => some ⟨[], []⟩
  | word :: rest =>
      if word = "--" then some ⟨[], rest⟩
      else if isOptionWord word then
        match readOptionWord? known word with
        | none => none
        | some (options, none) => (readWords? known rest).map (Words.withOptions options)
        | some (options, some key) =>
            match rest with
            | [] => none
            | value :: rest =>
                (readWords? known rest).map (Words.withOptions (options ++ [(key, value)]))
      else (readWords? known rest).map fun words => { words with operands := word :: words.operands }

def Words.all (words : Words) (key : OptionKey) : List String :=
  (words.options.filter (·.1 = key)).map (·.2)

/-- The last value of an option, read if it is there. -/
def Words.read? {α : Type} (words : Words) (key : OptionKey) (reader : String → Option α) :
    Option (Option α) :=
  match (words.all key).getLast? with
  | none => some none
  | some value => (reader value).map some

/-- A text that can name a file, as one with a null character cannot. -/
def readFileName? (text : String) : Option String :=
  if text.toList.contains (Char.ofNat 0) then none else some text

/-- A command from its words; none if they are not what it takes. -/
def ofWords? (name : CommandName) (words : Words) : Option Command := do
  let interval ← words.read? .interval Double.read?
  let limit ← words.read? .limit Text.readWholeNumber?
  let port ← words.read? .port Text.readWholeNumber?
  let database ← words.read? .database readFileName?
  if words.operands.length ≠ name.operands then none
  else
    some {
      name := name
      query := words.operands.headD ""
      watch := words.all .watch
      extensions := words.all .extension
      database? := database
      interval := interval.getD (.ofQuotient 10 1)
      limit? := limit
      host := ((words.all .host).getLast?).getD "127.0.0.1"
      port := port.getD 8000
      verbose := !(words.all .verbose).isEmpty }

/-- The command at the front of a list of words. -/
def named? : List String → Option Command
  | [] => none
  | word :: rest => do
      let name ← CommandName.ofString? word
      let words ← readWords? name.options rest
      ofWords? name words

/-- The command that a command line gives. In front of its name there are no options. -/
def read? : List String → Option Command
  | "--" :: words => named? words
  | words => named? words

end Command

end FolderIndex
