import TunnelProvisioning.Text.Digits

/-! # TOML string writer

A string is written in the plainest of the four ways that needs no escapes for it: on one line if it
has no line feed, and between double quotes if there is a choice. A string that no way can hold
without escapes is written between double quotes with escapes.
-/

namespace TunnelProvisioning.Toml

/-- The four ways to write a string. -/
inductive Style where
  | basic
  | basicLines
  | literal
  | literalLines
  deriving DecidableEq, Repr

/-- Whether a character can only be written as an escape. -/
def isControl (c : Char) : Bool :=
  (c.toNat ≤ 0x1F && c ≠ '\t' && c ≠ '\n') || c = '\x7f'

/-- The length of the longest run of a character, given that of the run that is under way. -/
def longestRun (sought : Char) : Nat → List Char → Nat
  | run, [] => run
  | run, c :: rest =>
    if c = sought then longestRun sought (run + 1) rest
    else max run (longestRun sought 0 rest)

def Style.of (cs : List Char) : Style :=
  let control := cs.any isControl
  let backslash := cs.contains '\\'
  let lines := cs.contains '\n'
  let quotes := longestRun '"' 0 cs
  let apostrophes := longestRun '\'' 0 cs
  if !control && !backslash && quotes = 0 && !lines then .basic
  else if !control && apostrophes = 0 && !lines then .literal
  else if !control && !backslash && quotes ≤ 2 then .basicLines
  else if !control && apostrophes ≤ 2 then .literalLines
  else if lines then .basicLines
  else .basic

/-- The letter of a short escape, for characters other than the quote and the line feed. -/
def escapeLetter? (c : Char) : Option Char :=
  if c = '\x08' then some 'b'
  else if c = '\t' then some 't'
  else if c = '\x0c' then some 'f'
  else if c = '\r' then some 'r'
  else if c = '\\' then some '\\'
  else none

/-- A character that is no quote, or an escape for it. -/
def escapeChar (lines : Bool) (c : Char) : List Char :=
  if c = '\n' then (if lines then ['\n'] else ['\\', 'n'])
  else
    match escapeLetter? c with
    | some letter => ['\\', letter]
    | none =>
      if isControl c then '\\' :: 'u' :: (Digits.hexPadded 4 c.toNat).map Char.toUpper else [c]

/-- The characters of a string with escapes. Of the quotes in a row only as many stay as cannot be
taken for the closing ones; the count is that of the quotes right before. -/
def escapeText (lines : Bool) : Nat → List Char → List Char
  | _, [] => []
  | quotes, c :: rest =>
    if c = '"' then
      if lines ∧ quotes < 2 then '"' :: escapeText lines (quotes + 1) rest
      else '\\' :: '"' :: escapeText lines 0 rest
    else escapeChar lines c ++ escapeText lines 0 rest

/-- Puts a text between three delimiters on each side. A text of several lines starts on a line of
its own. -/
def enclose (delimiter : Char) (lines : Bool) (cs : List Char) : List Char :=
  let fence := [delimiter, delimiter, delimiter]
  fence ++ (if lines then ['\n'] else []) ++ cs ++ fence

def writeString (text : String) : List Char :=
  let cs := text.toList
  let lines := cs.contains '\n'
  match Style.of cs with
  | .basic => '"' :: (escapeText false 0 cs ++ ['"'])
  | .literal => '\'' :: (cs ++ ['\''])
  | .basicLines => enclose '"' lines (escapeText true 0 cs)
  | .literalLines => enclose '\'' lines cs

def writeBoolean (truth : Bool) : List Char :=
  if truth then "true".toList else "false".toList

end TunnelProvisioning.Toml
