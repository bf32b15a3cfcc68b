/-
# `OpenVairInstaller.Text` — the `str` methods the installer calls

Rust's `str::len` is the UTF-8 byte length, which Lean has as
`String.utf8ByteSize`; `String.length` counts Unicode scalar values, the
"characters" of the installer's own messages.  The two agree on ASCII text, and
every non-ASCII character counts more than once in the first.

The other methods are written out here so that the model states each as the
Rust standard library defines it: `contains` with a pattern string is substring
search, `lines` splits at `\n` and drops one `\r` before it, `trim` strips the
Unicode `White_Space` characters from both ends and `trim_matches` a given one.
`to_lowercase` is taken as Lean's `String.toLower`, which agrees with Rust's on
ASCII; no result here depends on it beyond its being a function.
-/
import Mathlib.Data.List.Infix

namespace OpenVair

/-- `haystack.contains(needle)` for a `&str` pattern: substring search. -/
def strContains (haystack needle : String) : Bool :=
  decide (needle.data <:+: haystack.data)

theorem strContains_iff {haystack needle : String} :
    strContains haystack needle = true ↔ needle.data <:+: haystack.data := by
  simp [strContains]

/-- A string contains whatever is appended to it. -/
theorem strContains_append_right {s t needle : String} (h : strContains t needle = true) :
    strContains (s ++ t) needle = true :=
  strContains_iff.mpr ((strContains_iff.mp h).trans (List.suffix_append s.data t.data).isInfix)

/-- The pieces of a character list between its `'\n'`s. -/
def splitNewlines : List Char → List (List Char)
  | [] => [[]]
  | c :: cs =>
      if c = '\n' then [] :: splitNewlines cs
      else match splitNewlines cs with
        | [] => [[c]]
        | piece :: pieces => (c :: piece) :: pieces

/-- `line.strip_suffix('\r').unwrap_or(line)`. -/
def stripCR (line : List Char) : List Char :=
  if line.getLast? = some '\r' then line.dropLast else line

/-- `s.lines()`: the pieces between `\n`s, each with one `\r` before its `\n`
removed; a final `\n` ends the last line rather than starting an empty one. -/
def strLines (s : String) : List String :=
  match (splitNewlines s.data).reverse with
  | [] => []
  | last :: rest =>
      rest.reverse.map (fun line => ⟨stripCR line⟩) ++ (if last.isEmpty then [] else [⟨last⟩])

/-- `char::is_whitespace`: the Unicode `White_Space` property. -/
def isWhitespace (c : Char) : Bool :=
  let n := c.toNat
  (9 ≤ n && n ≤ 13) || n == 0x20 || n == 0x85 || n == 0xA0 || n == 0x1680 ||
    (0x2000 ≤ n && n ≤ 0x200A) || n == 0x2028 || n == 0x2029 || n == 0x202F ||
    n == 0x205F || n == 0x3000

/-- `s.trim()`: every leading and trailing whitespace character removed. -/
def strTrim (s : String) : String :=
  ⟨((s.data.dropWhile isWhitespace).reverse.dropWhile isWhitespace).reverse⟩

/-- `s.trim_matches(c)`: every leading and trailing `c` removed. -/
def trimMatches (s : String) (c : Char) : String :=
  ⟨((s.data.dropWhile (· = c)).reverse.dropWhile (· = c)).reverse⟩

example : strLines "NAME=x\r\nID=\"ubuntu\"\n" = ["NAME=x", "ID=\"ubuntu\""] := by decide

example : strTrim " \u00A0 localhost\n" = "localhost" := by decide

end OpenVair
