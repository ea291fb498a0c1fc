/-
  ClusterLicense/Text/Quoted.lean
  ===============================
  **Texts as diagnostics quote them**: between double quotes, on one line, and
  with nothing invisible in them.

  NUL, tab, line feed and carriage return have a letter of their own; quotation
  marks and backslashes are escaped; any other character that is not printable
  is written by its number in hexadecimal.  Values that were found in an input
  and names of files are quoted alike.
-/
import ClusterLicense.Text.Printable

namespace ClusterLicense.Text

/-- One character inside a quotation. -/
def quoteChar (c : Char) : List Char :=
  if c = '\x00' then ['\\', '0']
  else if c = '\t' then ['\\', 't']
  else if c = '\r' then ['\\', 'r']
  else if c = '\n' then ['\\', 'n']
  else if c = '\\' || c = '"' then ['\\', c]
  else if isPrintable c then [c]
  else ['\\', 'u', '\x7b'] ++ Nat.toDigits 16 c.toNat ++ ['\x7d']

def quote (text : String) : String :=
  String.ofList ('"' :: text.toList.flatMap quoteChar ++ ['"'])

end ClusterLicense.Text
