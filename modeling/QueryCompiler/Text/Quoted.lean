import QueryCompiler.Text.Unprintable

/-!
# Quoted text in messages

A text is shown between quotation marks, with a backslash before a mark or a
backslash, letters for the usual controls, and code points for characters
without a glyph.
-/

namespace QueryCompiler.Text

def quoteCharacter (character : Char) : List Char :=
  match character with
  | '"' => ['\\', '"']
  | '\\' => ['\\', '\\']
  | '\t' => ['\\', 't']
  | '\n' => ['\\', 'n']
  | '\r' => ['\\', 'r']
  | '\x00' => ['\\', '0']
  | _ =>
      if unprintable.contains character then
        '\\' :: 'u' :: '\x7b' :: (Nat.toDigits 16 character.toNat ++ ['\x7d'])
      else
        [character]

def quote (text : String) : String :=
  String.ofList ('"' :: (text.toList.flatMap quoteCharacter ++ ['"']))

end QueryCompiler.Text
