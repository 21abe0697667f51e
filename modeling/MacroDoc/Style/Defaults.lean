import MacroDoc.Style.Load
import MacroDoc.Style.Template

/-!
# The default styles

Documents are made with a sheet of default styles: the built-in sheet with the styles of
the default style file added, for plain paragraphs, code, lists, pictures and their
captions, and headings that are or are not listed in a table of contents. The default style
file also sets the texts before list items and caption numbers.

## Main definitions

* `Style.defaultStyleText`: the default style file.
* `Style.blank`: the built-in sheet, with no prefixes set.
* `Style.defaults`: the built-in sheet with the default style file loaded.
* `Style.startSheet`: where a style file is loaded on its own.
-/

namespace MacroDoc.Style

open Json

/-- The default style file. -/
def defaultStyleText : String :=
  "\x7b\n" ++
  "    \"paragraph\": \x7b\n" ++
  "        \"is_paragraph\": true,\n" ++
  "        \"first_line_indent\": 1.25,\n" ++
  "        \"left_indent\": 0,\n" ++
  "        \"line_spacing\": 1.5,\n" ++
  "        \"space_before\": 0,\n" ++
  "        \"space_after\": 0,\n" ++
  "        \"alignment\": \"JUSTIFY\",\n" ++
  "        \"font\": \x7b\n" ++
  "            \"name\": \"Times New Roman\",\n" ++
  "            \"size\": 14\n" ++
  "        \x7d\n" ++
  "    \x7d,\n" ++
  "    \"code\": \x7b\n" ++
  "        \"is_paragraph\": true,\n" ++
  "        \"first_line_indent\": 0,\n" ++
  "        \"left_indent\": 0,\n" ++
  "        \"line_spacing\": 1.5,\n" ++
  "        \"space_before\": 0,\n" ++
  "        \"space_after\": 0,\n" ++
  "        \"alignment\": \"LEFT\",\n" ++
  "        \"font\": \x7b\n" ++
  "            \"name\": \"Courier new\",\n" ++
  "            \"size\": 14\n" ++
  "        \x7d\n" ++
  "    \x7d,\n" ++
  "    \"list\": \x7b\n" ++
  "        \"is_paragraph\": true,\n" ++
  "        \"first_line_indent\": 1.25,\n" ++
  "        \"left_indent\": 0,\n" ++
  "        \"line_spacing\": 1.5,\n" ++
  "        \"space_before\": 0,\n" ++
  "        \"space_after\": 0,\n" ++
  "        \"alignment\": \"JUSTIFY\",\n" ++
  "        \"font\": \x7b\n" ++
  "            \"name\": \"Times New Roman\",\n" ++
  "            \"size\": 14\n" ++
  "        \x7d\n" ++
  "    \x7d,\n" ++
  "    \"image-caption\": \x7b\n" ++
  "        \"is_paragraph\": true,\n" ++
  "        \"first_line_indent\": 0,\n" ++
  "        \"left_indent\": 0,\n" ++
  "        \"line_spacing\": 1,\n" ++
  "        \"space_before\": 0,\n" ++
  "        \"space_after\": 0,\n" ++
  "        \"alignment\": \"CENTER\",\n" ++
  "        \"font\": \x7b\n" ++
  "            \"name\": \"Times New Roman\",\n" ++
  "            \"size\": 14\n" ++
  "        \x7d\n" ++
  "    \x7d,\n" ++
  "    \"image-paragraph\": \x7b\n" ++
  "        \"is_paragraph\": true,\n" ++
  "        \"first_line_indent\": 0,\n" ++
  "        \"left_indent\": 0,\n" ++
  "        \"line_spacing\": 1,\n" ++
  "        \"space_before\": 0,\n" ++
  "        \"space_after\": 0,\n" ++
  "        \"alignment\": \"CENTER\",\n" ++
  "        \"font\": \x7b\n" ++
  "            \"name\": \"Times New Roman\",\n" ++
  "            \"size\": 14\n" ++
  "        \x7d\n" ++
  "    \x7d,\n" ++
  "    \"heading-1\": \x7b\n" ++
  "        \"is_paragraph\": true,\n" ++
  "        \"first_line_indent\": 0,\n" ++
  "        \"left_indent\": 0,\n" ++
  "        \"line_spacing\": 1.5,\n" ++
  "        \"space_before\": 0,\n" ++
  "        \"space_after\": 0,\n" ++
  "        \"alignment\": \"CENTER\",\n" ++
  "        \"base_style\": \"Heading 1\",\n" ++
  "        \"font\": \x7b\n" ++
  "            \"name\": \"Times New Roman\",\n" ++
  "            \"size\": 14,\n" ++
  "            \"bold\": true,\n" ++
  "            \"all_caps\": true,\n" ++
  "            \"color\": \"000000\"\n" ++
  "        \x7d\n" ++
  "    \x7d,\n" ++
  "    \"heading-2\": \x7b\n" ++
  "        \"is_paragraph\": true,\n" ++
  "        \"first_line_indent\": 1.25,\n" ++
  "        \"left_indent\": 0,\n" ++
  "        \"line_spacing\": 1.5,\n" ++
  "        \"space_before\": 0,\n" ++
  "        \"space_after\": 0,\n" ++
  "        \"alignment\": \"JUSTIFY\",\n" ++
  "        \"base_style\": \"Heading 2\",\n" ++
  "        \"font\": \x7b\n" ++
  "            \"name\": \"Times New Roman\",\n" ++
  "            \"size\": 14,\n" ++
  "            \"bold\": true,\n" ++
  "            \"color\": \"000000\"\n" ++
  "        \x7d\n" ++
  "    \x7d,\n" ++
  "    \"heading-3\": \x7b\n" ++
  "        \"is_paragraph\": true,\n" ++
  "        \"first_line_indent\": 1.25,\n" ++
  "        \"left_indent\": 0,\n" ++
  "        \"line_spacing\": 1.5,\n" ++
  "        \"space_before\": 0,\n" ++
  "        \"space_after\": 0,\n" ++
  "        \"alignment\": \"JUSTIFY\",\n" ++
  "        \"base_style\": \"Heading 3\",\n" ++
  "        \"font\": \x7b\n" ++
  "            \"name\": \"Times New Roman\",\n" ++
  "            \"size\": 14,\n" ++
  "            \"bold\": true,\n" ++
  "            \"color\": \"000000\"\n" ++
  "        \x7d\n" ++
  "    \x7d,\n" ++
  "    \"heading-1-non-toc\": \x7b\n" ++
  "        \"is_paragraph\": true,\n" ++
  "        \"first_line_indent\": 0,\n" ++
  "        \"left_indent\": 0,\n" ++
  "        \"line_spacing\": 1.5,\n" ++
  "        \"space_before\": 0,\n" ++
  "        \"space_after\": 0,\n" ++
  "        \"alignment\": \"CENTER\",\n" ++
  "        \"font\": \x7b\n" ++
  "            \"name\": \"Times New Roman\",\n" ++
  "            \"size\": 14,\n" ++
  "            \"bold\": true,\n" ++
  "            \"all_caps\": true\n" ++
  "        \x7d\n" ++
  "    \x7d,\n" ++
  "    \"heading-2-non-toc\": \x7b\n" ++
  "        \"is_paragraph\": true,\n" ++
  "        \"first_line_indent\": 1.25,\n" ++
  "        \"left_indent\": 0,\n" ++
  "        \"line_spacing\": 1.5,\n" ++
  "        \"space_before\": 0,\n" ++
  "        \"space_after\": 0,\n" ++
  "        \"alignment\": \"JUSTIFY\",\n" ++
  "        \"font\": \x7b\n" ++
  "            \"name\": \"Times New Roman\",\n" ++
  "            \"size\": 14,\n" ++
  "            \"bold\": true\n" ++
  "        \x7d\n" ++
  "    \x7d,\n" ++
  "    \"unordered_list_prefix\": \"— \",\n" ++
  "    \"image_caption_prefix\": \"Рисунок \",\n" ++
  "    \"image_caption_infix\": \" — \"\n" ++
  "\x7d\n" ++
  ""

/-- The built-in sheet, before any style file sets the prefixes. -/
def blank : Loaded :=
  ⟨builtinSheet, ⟨.null, .null, .null⟩⟩

/-- The built-in sheet with the default style file loaded. The file nests two levels, far
within the room of any reading, so it is read as if no call were open around it. -/
def defaults : Loaded :=
  match blank.loadText 0 defaultStyleText false with
  | .ok l => l
  | .error _ => blank

/-- Where a style file is loaded on its own: a new document, or one that has taken in the
default styles first, with the prefixes the default style file set. -/
def startSheet (withDefaults : Bool) : Except Fault Loaded := do
  let sheet ← if withDefaults then builtinSheet.adopt defaults.sheet else pure builtinSheet
  return ⟨sheet, defaults.prefixes⟩

end MacroDoc.Style
