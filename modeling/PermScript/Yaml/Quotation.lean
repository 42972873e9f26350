/-
Scalars in quotes. Between single quotes a doubled quote is the only
escape; between double quotes a backslash introduces one. Line breaks fold
as in plain scalars.
-/
import PermScript.Yaml.Plain

namespace PermScript.Yaml

/-- Reads on to the closing single quote. -/
def singleFrom (p : Place) (done : List Char) (gap : Gap) : List Char → Option Scanned
  | [] => none
  | '\'' :: '\'' :: rest =>
    singleFrom (p.right 2) ('\'' :: (gap.text.reverse ++ done)) .none rest
  | c :: rest =>
    if c == '\'' then some ⟨(gap.text.reverse ++ done).reverse, rest, p.after c, false⟩
    else if isBlank c then singleFrom (p.after c) done (gap.addBlank c) rest
    else if isBreak c then singleFrom (p.after c) done (gap.addBreak c) rest
    else if atDocumentMark p (c :: rest) then none
    else singleFrom (p.after c) (c :: (gap.text.reverse ++ done)) .none rest

/-- What a backslash and the character after it stand for: a character, or
the number of hexadecimal digits that follow. -/
inductive Escape
  | char (c : Char)
  | code (digits : Nat)

/-- The escapes of double quotes. -/
def Escape.of? : Char → Option Escape
  | '0' => some (.char '\x00')
  | 'a' => some (.char '\x07')
  | 'b' => some (.char '\x08')
  | 't' => some (.char '\t')
  | '\t' => some (.char '\t')
  | 'n' => some (.char '\n')
  | 'v' => some (.char '\x0b')
  | 'f' => some (.char '\x0c')
  | 'r' => some (.char '\r')
  | 'e' => some (.char '\x1b')
  | ' ' => some (.char ' ')
  | '"' => some (.char '"')
  | '/' => some (.char '/')
  | '\\' => some (.char '\\')
  | 'N' => some (.char nextLine)
  | '_' => some (.char '\xa0')
  | 'L' => some (.char lineSeparator)
  | 'P' => some (.char paragraphSeparator)
  | 'x' => some (.code 2)
  | 'u' => some (.code 4)
  | 'U' => some (.code 8)
  | _ => none

/-- The character with a code point, if there is one. -/
def charOfCode? (n : Nat) : Option Char :=
  if n.isValidChar then some (Char.ofNat n) else none

/-- Reads on to the closing double quote. While `digits` is not zero, so
many hexadecimal digits of the character of value `code` are still to come. -/
def doubleFrom (p : Place) (done : List Char) (gap : Gap) (digits code : Nat) :
    List Char → Option Scanned
  | [] => none
  | '\\' :: c :: rest =>
    if digits ≠ 0 then none
    else
      let done := gap.text.reverse ++ done
      if isBreak c then doubleFrom ((p.right 1).after c) done (.lines [] []) 0 0 rest
      else match Escape.of? c with
        | some (.char e) => doubleFrom (p.right 2) (e :: done) .none 0 0 rest
        | some (.code n) => doubleFrom (p.right 2) done .none n 0 rest
        | none => none
  | c :: rest =>
    if digits ≠ 0 then
      match hexValue? c with
      | none => none
      | some v =>
        let code := code * 16 + v
        if digits = 1 then
          match charOfCode? code with
          | some e => doubleFrom (p.after c) (e :: done) .none 0 0 rest
          | none => none
        else doubleFrom (p.after c) done .none (digits - 1) code rest
    else if c == '"' then some ⟨(gap.text.reverse ++ done).reverse, rest, p.after c, false⟩
    else if isBlank c then doubleFrom (p.after c) done (gap.addBlank c) 0 0 rest
    else if isBreak c then doubleFrom (p.after c) done (gap.addBreak c) 0 0 rest
    else if c == '\\' || atDocumentMark p (c :: rest) then none
    else doubleFrom (p.after c) (c :: (gap.text.reverse ++ done)) .none 0 0 rest

end PermScript.Yaml
