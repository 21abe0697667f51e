import MacroDoc.Decimal.Literal
import MacroDoc.Text.Quoted

/-!
# Command-line options

The command line takes options only, each with a one-dash and a two-dash spelling. An
option is a switch, takes one word, or takes one word read as a whole number; `-h` shows the
help text and stops.

Words are read in two passes. First every word is classified: an exact spelling; a spelling
followed by `=` and a value; a two-dash word that begins exactly one spelling (two or more is
an ambiguity, refused before anything else); a one-dash word whose first two characters are
a one-dash spelling, the rest being its value; a word that looks like an option but names
none; and plain words, among them negative numbers, words with a blank, a lone dash and
every word after `--`.

Then the options act in order. An option that takes a word takes the value attached to it,
or else the next plain word, and is refused when there is none. Switches run together
(`-sn` is `-s -n`); a value attached to a switch that does not spell another switch is
refused. Unknown and plain words are collected and refused at the end, all together.

## Main definitions

* `Command.Spec`, `Command.specs`: the options.
* `Command.Settings`: what the options set.
* `Command.Parsed`, `Command.parse`: reading a command line.
-/

namespace MacroDoc.Command

/-- What an option takes. -/
inductive Takes where
  /-- Shows the help text and stops. -/
  | help
  /-- Nothing: the option is a switch. -/
  | nothing
  /-- One word. -/
  | word
  /-- One word, read as a whole number. -/
  | number
  deriving DecidableEq

/-- What an option sets. -/
inductive Target where
  | help
  | input
  | output
  | stripIndent
  | skipEmpty
  | indentLength
  | indentChar
  | skipNumbering
  | toText
  | textOutdir
  | inputDir
  deriving DecidableEq

/-- An option of the command line. -/
structure Spec where
  /-- The spelling with one dash. -/
  short : String
  /-- The spelling with two dashes. -/
  long : String
  target : Target
  takes : Takes
  /-- The line of help text. -/
  help : String

namespace Spec

/-- The key of an option: its two-dash spelling without the dashes, inner dashes made
underscores. -/
def key (s : Spec) : String :=
  String.ofList ((s.long.toList.drop 2).map fun c => if c == '-' then '_' else c)

/-- The placeholder for an option's word: its key in capitals. -/
def placeholder (s : Spec) : String := String.ofList (s.key.toList.map Char.toUpper)

/-- The spellings of an option, the one-dash one first. -/
def spellings (s : Spec) : List String := [s.short, s.long]

/-- How an option is named in messages. -/
def display (s : Spec) : String := s.short ++ "/" ++ s.long

/-- Whether an option takes a word. -/
def takesWord (s : Spec) : Bool := s.takes == .word || s.takes == .number

end Spec

/-- The options, in the order they are listed. -/
def specs : List Spec :=
  [⟨"-h", "--help", .help, .help, "show this help message and exit"⟩,
   ⟨"-i", "--input", .input, .word, "Path to source file"⟩,
   ⟨"-o", "--output", .output, .word,
    "Path to output file, or outut file name in case -d flag is provided"⟩,
   ⟨"-s", "--strip-indent", .stripIndent, .nothing, "strip indents of nested macros"⟩,
   ⟨"-se", "--skip-empty", .skipEmpty, .nothing, "skip empty lines"⟩,
   ⟨"-il", "--indent-length", .indentLength, .number, "Length of indent sequence"⟩,
   ⟨"-ic", "--indent-char", .indentChar, .word, "Indent character"⟩,
   ⟨"-n", "--skip-numbering", .skipNumbering, .nothing,
    "Don't put page number in footers of pages"⟩,
   ⟨"-d", "--docx_to_txt", .toText, .nothing, "Convert .docx file .txt"⟩,
   ⟨"-od", "--docx_to_txt_outdir", .textOutdir, .word,
    "If -d flag is provided, specifies output dir for style and output files"⟩,
   ⟨"-id", "--input_dir", .inputDir, .word,
    "Program moves to specified directory before processing txt's. If not specified, " ++
    "uses current working dir. Paths passed via -i and -o are resolved before moving"⟩]

/-- Every spelling with its option, in the order they are listed. -/
def spellingTable : List (String × Spec) :=
  specs.flatMap fun s => s.spellings.map (·, s)

/-- The option a spelling names exactly. -/
def optionNamed? (w : String) : Option Spec :=
  (spellingTable.find? (·.1 == w)).map (·.2)

/-- What the options set. -/
structure Settings where
  input : Option String := none
  output : Option String := none
  stripIndent : Bool := false
  skipEmpty : Bool := false
  indentLength : Option Int := none
  indentChar : Option String := none
  skipNumbering : Bool := false
  toText : Bool := false
  textOutdir : Option String := none
  inputDir : Option String := none

/-- A classified word of the command line. -/
inductive Word where
  /-- An option, with the spelling it was given by and the value attached, if any. -/
  | option (spec : Spec) (spelling : String) (attached : Option String)
  /-- A word that looks like an option and names none. -/
  | unknown (w : String)
  /-- A plain word. -/
  | plain (w : String)
  /-- The first `--`, after which every word is plain. -/
  | marker

/-- Whether a character is a decimal digit of any script. -/
def isAnyDigit (c : Char) : Bool := (Text.decimalDigit? c).isSome

/-- Whether a word is a negative number: a dash, then digits, or digits around a point
with at least one after it. Digits of any script count, and one line feed may end the
word. -/
def isNegativeNumber (w : String) : Bool :=
  let cs := w.toList
  let cs := if cs.getLast? == some '\n' then cs.dropLast else cs
  match cs with
  | '-' :: rest =>
    let (whole, tail) := (rest.takeWhile isAnyDigit, rest.dropWhile isAnyDigit)
    (!whole.isEmpty && tail.isEmpty) ||
      (match tail with
       | '.' :: frac => !frac.isEmpty && frac.all isAnyDigit
       | _ => false)
  | _ => false

/-- The options a word that is not an exact spelling may stand for. -/
def candidates (w : String) : List (Spec × String × Option String) :=
  match w.toList with
  | '-' :: '-' :: _ =>
    let (pre, value) := match w.splitOn "=" with
      | [] => (w, none)
      | [p] => (p, none)
      | p :: rest => (p, some ("=".intercalate rest))
    spellingTable.filterMap fun (sp, s) =>
      if sp.startsWith pre then some (s, sp, value) else none
  | '-' :: c :: rest =>
    let shortPrefix := String.ofList ['-', c]
    spellingTable.filterMap fun (sp, s) =>
      if sp == shortPrefix then some (s, sp, some (String.ofList rest))
      else if sp.startsWith w then some (s, sp, none)
      else none
  | _ => []

/-- The refusal of an ambiguous word. -/
def ambiguous (w : String) (spellings : List String) : String :=
  "ambiguous option: " ++ w ++ " could match " ++ ", ".intercalate spellings

/-- Classify a word that is not after `--`. -/
def classify (w : String) : Except String Word :=
  match w.toList with
  | '-' :: _ :: _ =>
    match optionNamed? w with
    | some s => .ok (.option s w none)
    | none =>
      let withValue : Option Word := match w.splitOn "=" with
        | p :: rest@(_ :: _) => (optionNamed? p).map fun s => .option s p (some ("=".intercalate rest))
        | _ => none
      match withValue with
      | some word => .ok word
      | none =>
        match candidates w with
        | [(s, sp, value)] => .ok (.option s sp value)
        | [] =>
          if isNegativeNumber w || w.toList.contains ' ' then .ok (.plain w) else .ok (.unknown w)
        | many => .error (ambiguous w (many.map (·.2.1)))
  | _ => .ok (.plain w)

/-- Classify the words of a command line. -/
def classifyAll : List String → Except String (List Word)
  | [] => .ok []
  | w :: rest =>
    if w == "--" then .ok (.marker :: rest.map Word.plain)
    else do
      let word ← classify w
      return word :: (← classifyAll rest)

/-- How reading a command line ends. -/
inductive Parsed where
  /-- The help text was asked for. -/
  | help
  /-- The command line was refused, with the reason. -/
  | refused (reason : String)
  /-- The settings the options made. -/
  | settings (s : Settings)

/-- What an option does, with its word. -/
def Settings.apply (st : Settings) (s : Spec) (value : Option String) : Except String Settings :=
  match s.target, value with
  | .input, some v => .ok { st with input := some v }
  | .output, some v => .ok { st with output := some v }
  | .indentChar, some v => .ok { st with indentChar := some v }
  | .textOutdir, some v => .ok { st with textOutdir := some v }
  | .inputDir, some v => .ok { st with inputDir := some v }
  | .indentLength, some v =>
    match Decimal.readInt v with
    | .value n => .ok { st with indentLength := some n }
    | _ => .error ("argument " ++ s.display ++ ": invalid int value: " ++ Text.quote v)
  | .stripIndent, _ => .ok { st with stripIndent := true }
  | .skipEmpty, _ => .ok { st with skipEmpty := true }
  | .skipNumbering, _ => .ok { st with skipNumbering := true }
  | .toText, _ => .ok { st with toText := true }
  | _, _ => .ok st

/-- What an option found in a word does, given the value attached to it: the options it
stands for, each with its word. The last may still need the next word. -/
def expand (s : Spec) (spelling : String) : Nat → Option String →
    Except String (List (Spec × Option String))
  | 0, _ => .ok []
  | fuel + 1, attached =>
    match attached with
    | none => .ok [(s, none)]
    | some v =>
      if s.takesWord then .ok [(s, some v)]
      else
        let ignored := "argument " ++ s.display ++ ": ignored explicit argument " ++ Text.quote v
        match spelling.toList, v.toList with
        | _ :: c :: _, first :: rest =>
          if c == '-' then .error ignored
          else
            let next := String.ofList ['-', first]
            match optionNamed? next with
            | some s2 => do
              let more ← expand s2 next fuel (if rest.isEmpty then none else some (String.ofList rest))
              return (s, none) :: more
            | none => .error ignored
        | _, _ => .error ignored

/-- The options a word stands for, with their words: an option that takes a word and has
none attached takes the next word, which must be plain. Gives the words left. -/
def actionsOf (s : Spec) (spelling : String) (attached : Option String) (rest : List Word) :
    Except String (List (Spec × Option String) × List Word) := do
  let fuel := (attached.map String.length).getD 0 + 1
  let actions ← expand s spelling fuel attached
  match actions.getLast? with
  | some (last, none) =>
    if last.takesWord then
      match rest with
      | .plain v :: more => return (actions.dropLast ++ [(last, some v)], more)
      | _ => .error ("argument " ++ last.display ++ ": expected one argument")
    else return (actions, rest)
  | _ => return (actions, rest)

/-- The state of the second pass: the settings so far and the words not taken. -/
structure Reading where
  settings : Settings := {}
  extras : List String := []

/-- Take the words of a command line in order; `none` when the help text was asked for. The
fuel bounds the number of steps, one word or more each. -/
def takeWords : Nat → Reading → List Word → Except String (Option Reading)
  | 0, r, _ => .ok (some r)
  | _, r, [] => .ok (some r)
  | fuel + 1, r, .plain w :: rest => takeWords fuel { r with extras := r.extras ++ [w] } rest
  | fuel + 1, r, .unknown w :: rest => takeWords fuel { r with extras := r.extras ++ [w] } rest
  | fuel + 1, r, .marker :: rest => takeWords fuel { r with extras := r.extras ++ ["--"] } rest
  | fuel + 1, r, .option s spelling attached :: rest => do
    let (actions, rest) ← actionsOf s spelling attached rest
    let step : Option Settings → Spec × Option String → Except String (Option Settings) :=
      fun acc (spec, value) => match acc with
        | none => .ok none
        | some st => if spec.takes == .help then .ok none else do return some (← st.apply spec value)
    match ← actions.foldlM step (some r.settings) with
    | none => .ok none
    | some st => takeWords fuel { r with settings := st } rest

/-- Read a command line. -/
def parse (args : List String) : Parsed :=
  match classifyAll args with
  | .error reason => .refused reason
  | .ok words =>
    match takeWords (words.length + 1) {} words with
    | .error reason => .refused reason
    | .ok none => .help
    | .ok (some r) =>
      if r.extras.isEmpty then .settings r.settings
      else .refused ("unrecognized arguments: " ++ " ".intercalate r.extras)

end MacroDoc.Command
