import MacroDoc.Command.Run
import MacroDoc.Style.Defaults

/-!
# The sample walkthrough

A walkthrough that shows the program at work. It prints notes in Russian, waits for a
line, prints the same notes in English, writes a sample source to `example.txt`, waits for
another line, loads the default styles from `styles/default.json`, and converts the sample
into `example.docx` with indents of four blanks stripped and empty lines skipped. The
prompts are printed without a line end, so what follows them continues their line.

Run other than on its own, it refuses, with status 1.

## Main definitions

* `Command.sampleSource`: the sample source.
* `Command.runSample`: run the walkthrough on the lines of its input.
-/

namespace MacroDoc.Command

/-- The file the sample source is written to. -/
def sampleInput : String := "example.txt"

/-- The file the sample document is saved to. -/
def sampleOutput : String := "example.docx"

/-- The style file the walkthrough loads. -/
def sampleStyles : String := "styles/default.json"

/-- The sample source. -/
def sampleSource : String :=
  "\n".intercalate
    ["",
     "(echo \"This line is printed during processing of example.txt. " ++
       "Эта строка выведена во время обработки example.txt\")",
     "(unordered-list",
     "(unordered-list-item",
     "    FIRST ITEM",
     ")",
     "(unordered-list-item",
     "    SECOND ITEM",
     ")",
     ")",
     "(paragraph-styled heading-1",
     "    BIG HEADER",
     ")",
     "(paragraph-styled heading-2",
     "    Small header",
     ")",
     "(paragraph-styled heading-2",
     "    Small header",
     ")",
     "(ordered-list",
     "    (ordered-list-item",
     "        FIRST ITEM",
     "    )",
     "    (ordered-list-item",
     "        SECOND ITEM",
     "    )",
     ")",
     "# Also I can put images and image captions",
     "# Just uncomment these lines and replace IMAGE_PATH with path to an image:",
     "#(image IMAGE_PATH)",
     "#(image-caption",
     "#    This is image caption",
     "#)",
     "",
     "And we can also support regular text.",
     "Isn" ++ String.singleton Text.singleQuote ++ "t it wonderful?",
     "",
     "# And also i can insert other document into yours!",
     "# Just uncomment these lines and replace DOC_PATH with path to a .docx file:",
     "#(doc DOC_PATH)",
     ""]

/-- The notes in Russian. -/
def notesRussian : String :=
  "\n".intercalate
    ["Созданные файлы:",
     "    example.txt",
     "    example.docx",
     ">> Ты можешь посмотреть содержимое example.txt, чтобы увидеть, как написать свой " ++
       ".txt файл.",
     ">> example.docx это файл, который был создан из example.txt этим скриптом.",
     "",
     "Чтобы использовать СВОЙ_ФАЙЛ.txt, введи следующую команду:",
     "    python3 main.py -i СВОЙ_ФАЙЛ.txt -o СВОЙ_РЕЗ_ФАЙЛ.docx -s -se",
     ""]

/-- The notes in English. -/
def notesEnglish : String :=
  "\n".intercalate
    ["",
     "",
     "Created files:",
     "    example.txt",
     "    example.docx",
     ">> You can look into example.txt to see, how to write your own input files.",
     ">> example.docx is the output file which was constructed from example.txt by the tool.",
     "",
     "To use YOUR_INPUT_FILE_PATH.txt, use the following command:",
     "    python3 main.py -i YOUR_INPUT_FILE_PATH.txt -o YOUR_OUTPUT_FILE_PATH.txt -s -se",
     ""]

/-- The first prompt. -/
def firstPrompt : String := "Press Enter to see this message in English"

/-- The second prompt. -/
def secondPrompt : String := "Press Enter to create .docx file"

/-- The refusal of a wait for a line when the input has none left. -/
def noMoreInput : Fault := ⟨.endOfInput, "EOF when reading a line"⟩

/-- The lines of printed text: the pieces after each line end, the last left out when
empty. -/
def printedLines (text : String) : List String :=
  match (text.splitOn "\n").reverse with
  | "" :: rest => rest.reverse
  | pieces => pieces.reverse

/-- How many lines an input offers to waits: every line ended by a line end, and a last
line without one if it is not empty. -/
def inputLines (input : String) : Nat :=
  match (input.splitOn "\n").reverse with
  | "" :: rest => rest.length
  | pieces => pieces.length

/-- The lines the sample conversion reads with: indents of four blanks stripped, empty
lines skipped. -/
def sampleLayout : Engine.Layout := { indentUnit := .text "    " 1, stripIndent := true, skipEmpty := true }

/-- The lines printed when the text `printed`, which may end within a line, is followed by
the lines `lines`. -/
def printedAfter (printed : String) (lines : List String) : List String :=
  printedLines (printed ++ String.join (lines.map (· ++ "\n")))

/-- Run the walkthrough in a file tree, with the text of its input, `calls` calls deep. The
style file is read three calls deeper, and the source is converted one call deeper. A fault
escapes after what the walkthrough has printed so far. -/
def runSample (files : Files.Tree) (input : String) (calls : Nat) : Except Escape Ending := do
  let printed := notesRussian ++ "\n" ++ firstPrompt
  if inputLines input < 1 then .error ⟨noMoreInput, printedLines printed⟩
  let printed := printed ++ notesEnglish ++ "\n"
  let files ← escaping (printedLines printed) (files.save sampleInput (.bytes sampleSource.toUTF8))
  let printed := printed ++ secondPrompt
  if inputLines input < 2 then .error ⟨noMoreInput, printedLines printed⟩
  let styleText ← escaping (printedLines printed) (files.readText sampleStyles)
  let defaults ← escaping (printedLines printed)
    (({ Style.blank with prefixes := Style.defaults.prefixes } : Style.Loaded).loadText
      (calls + 3) styleText false)
  let setup : Engine.Setup := ⟨sampleLayout, defaults, files, calls + 1⟩
  let text ← escaping (printedLines printed) (files.readText sampleInput)
  match Engine.convert setup text with
  | .error f =>
    -- the conversion's failure ends the walkthrough as it ends the program, after the notes
    match endFailure files f with
    | .ok e => return { e with stdout := printedAfter printed e.stdout }
    | .error esc => .error { esc with stdout := printedAfter printed esc.stdout }
  | .ok r =>
    let files ← escaping (printedAfter printed r.world.output)
      (do r.world.files.save sampleOutput (.package (← r.joined) true))
    return ⟨0, printedAfter printed r.world.output, [], none, files⟩

/-- The walkthrough run other than on its own. -/
def refuseSample (files : Files.Tree) : Ending :=
  ⟨1, ["example can" ++ String.singleton Text.singleQuote ++ "t be used as module"], [], none, files⟩

end MacroDoc.Command
