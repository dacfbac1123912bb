import PgBinding.Cli.Interface
import PgBinding.Text.Width.Unicode17
/-!
Usage lines and help texts of a command line level.

A usage line names the level, then `[OPTIONS]` when nothing in particular was given and the level
has options besides help, then the options given, then the operand (in angle brackets once
given), then `<COMMAND>` when a subcommand is required.

Help is the description, the usage line, and sections for the subcommands, the operand and the
options. In the short form each entry is one line, its help aligned two columns after the widest
entry; in the long form the help goes on the next line, indented ten columns, entries are
separated by blank lines, and the choices of a value are listed one per line with their own help.
Help is never wrapped.
-/
namespace PgBinding
namespace Cli

/-- `n` spaces. -/
def spaces (n : Nat) : String := String.ofList (List.replicate n ' ')

/-- The columns a text takes. -/
def columns (s : String) : Nat := Text.WidthTable.unicode17.displayWidth s.toList

/-- A text without its trailing blanks. -/
def trimRight (s : String) : String :=
  String.ofList (s.toList.reverse.dropWhile Char.isWhitespace).reverse

namespace Level

/-- Whether the usage line shows `[OPTIONS]`: the level has an option other than help. -/
def needsOptionsTag (l : Level) : Bool :=
  l.options.any fun a => a.action != .help

/-- The usage line, without its title, when the options `used` (by id, in order) were given. -/
def usage (l : Level) (used : List String) : String :=
  let opts := (used.filterMap fun id => (l.find id).map Argument.display).eraseDups
  let operand := match l.operand with
    | some o => [o.display (used.contains o.id)]
    | none => []
  let tag := if used.isEmpty && l.needsOptionsTag then ["[OPTIONS]"] else []
  let command := if l.commands.isEmpty then [] else ["<COMMAND>"]
  trimRight (" ".intercalate ([l.usageName] ++ tag ++ opts ++ operand ++ command))

/-- The usage line with its title. -/
def usageLine (l : Level) (used : List String) : String := "Usage: " ++ l.usage used

end Level

/-- The key options are listed by: display order, then the short letter (lowercase first) or the
long name. -/
def Argument.sortKey (a : Argument) : Nat × String :=
  match a.short with
  | some c => (a.order, String.singleton c.toLower ++ (if c.isLower then "0" else "1"))
  | none => (a.order, a.long.getD ("\x7b" ++ a.id))

/-- Options in the order help lists them. -/
def sortOptions (as : List Argument) : List Argument :=
  as.mergeSort fun a b =>
    let (x, y) := (a.sortKey, b.sortKey)
    x.1 < y.1 || (x.1 = y.1 && decide (x.2 ≤ y.2))

/-- The list of an option's choices, shown after its help in the short form. -/
def choiceList (a : Argument) : String :=
  match a.choices with
  | [] => ""
  | cs => "[possible values: " ++ ", ".intercalate (cs.map (·.name)) ++ "]"

/-- The width of the help column's indentation in the long form. -/
def nextLineIndent : Nat := 10

/-- The help of an entry: its text and, in the short form, the list of choices; in the long form
with choices that have help, the list of choices follows one per line. `indent` is where help
starts. -/
def entryHelp (long : Bool) (indent : Nat) (about : String) (a : Option Argument) : String :=
  let listChoices := long && (a.map Argument.hasChoiceHelp).getD false
  let extra := match a with
    | some arg => if listChoices then "" else choiceList arg
    | none => ""
  let sep := if long && a.isSome then "\n\n" else " "
  let text := if extra.isEmpty then about else if about.isEmpty then extra else about ++ sep ++ extra
  let text := text.replace "\n" ("\n" ++ spaces indent)
  match a with
  | some arg =>
    if listChoices then
      let widest := (arg.choices.map (columns ·.name)).foldl max 0
      let items := arg.choices.map fun c =>
        let described := match c.description with
          | some h => c.name ++ ": " ++ spaces (widest - columns c.name) ++ h
          | none => c.name
        "\n" ++ spaces indent ++ "- " ++ described
      let head := if text.isEmpty then "" else text ++ "\n\n" ++ spaces indent
      head ++ "Possible values:" ++ String.join items
    else text
  | none => text

/-- The lines of the options section. -/
def optionEntries (long : Bool) (as : List Argument) : String :=
  let widest := (as.map fun a => columns a.display + 4).foldl max 2
  let entry (a : Argument) : String :=
    let name := (match a.short with
      | some c => "-" ++ String.singleton c
      | none => if a.long.isSome then "    " else "") ++
      (match a.long with
      | some l => (if a.short.isSome then ", " else "") ++ "--" ++ l
      | none => "") ++ a.suffix
    let about := (if long then a.longDescription.or a.description else a.description.or a.longDescription).getD ""
    if long then
      "  " ++ name ++ "\n" ++ spaces nextLineIndent ++ entryHelp true nextLineIndent about (some a)
    else
      let pad := widest + (if a.long.isSome then 2 else 6) - (columns a.display + 4)
      "  " ++ name ++ spaces pad ++ entryHelp false (widest + 4) about (some a)
  (if long then "\n\n" else "\n").intercalate ((sortOptions as).map entry)

/-- The lines of the operand section. -/
def operandEntry (long : Bool) (o : Operand) : String :=
  let name := o.display false
  let about := o.description.getD ""
  if long then "  " ++ name ++ "\n" ++ spaces nextLineIndent ++ entryHelp true nextLineIndent about none
  else
    let widest := max 2 (columns name)
    "  " ++ name ++ spaces (widest + 2 - columns name) ++ entryHelp false (widest + 4) about none

/-- The lines of the subcommands section. -/
def commandEntries (cs : List (String × Option String)) : String :=
  let widest := (cs.map fun c => columns c.1).foldl max 2
  "\n".intercalate (cs.map fun (name, about) =>
    "  " ++ name ++ spaces (widest + 2 - columns name) ++ about.getD "")

/-- The help of a level, short or long. -/
def Level.helpText (l : Level) (long : Bool) : String :=
  let long := long && l.hasLongHelp
  let sections :=
    (if l.commands.isEmpty then [] else ["Commands:\n" ++ commandEntries l.commands]) ++
    (match l.operand with
      | some o => ["Arguments:\n" ++ operandEntry long o]
      | none => []) ++
    (if l.options.isEmpty then [] else ["Options:\n" ++ optionEntries long l.options])
  let about := match l.about with
    | some a => a ++ "\n"
    | none => ""
  let text := about ++ "\n" ++ l.usageLine [] ++ "\n\n" ++ "\n\n".intercalate sections
  let text := match text.splitOn "\n" with
    | first :: rest => if first.all Char.isWhitespace then "\n".intercalate rest else text
    | [] => text
  trimRight text ++ "\n"

end Cli
end PgBinding
