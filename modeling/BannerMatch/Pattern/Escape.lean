import BannerMatch.Pattern.Syntax

/-!
# Escape sequences of patterns

Readers take the characters that are left and give what they read with the rest, or nothing when
the text is malformed.

* In verbose mode white space and comments may stand between any two parts; `skipVerbose` drops
  them, and `splitBraced` reads the contents of braces without them.
* `readEscape` reads what follows a backslash.
-/

namespace BannerMatch.Pattern

/-! ### Verbose mode -/

/-- Drops white space and comments; `comment` says that the text starts inside a comment. -/
def skipSpace (comment : Bool) : List Char → List Char
  | [] => []
  | c :: rest =>
      if comment then skipSpace (c != '\n') rest
      else if Text.isBlank c then skipSpace false rest
      else if c = '#' then skipSpace true rest
      else c :: rest

/-- Drops white space and comments in verbose mode, and nothing otherwise. -/
def skipVerbose (verbose : Bool) (cs : List Char) : List Char :=
  if verbose then skipSpace false cs else cs

/-- The characters up to the next closing brace and the text after it. In verbose mode white space
and comments are left out. -/
def splitBraced (verbose comment : Bool) : List Char → Option (List Char × List Char)
  | [] => none
  | c :: rest =>
      if comment then splitBraced verbose (c != '\n') rest
      else if verbose && Text.isBlank c then splitBraced verbose false rest
      else if verbose && c == '#' then splitBraced verbose true rest
      else if c = '}' then some ([], rest)
      else (splitBraced verbose false rest).map fun p => (c :: p.1, p.2)

/-! ### Numbers -/

/-- The value of a hexadecimal digit. -/
def hexDigit? (c : Char) : Option Nat :=
  if '0' ≤ c ∧ c ≤ '9' then some (c.toNat - 48)
  else if 'a' ≤ c ∧ c ≤ 'f' then some (c.toNat - 87)
  else if 'A' ≤ c ∧ c ≤ 'F' then some (c.toNat - 55)
  else none

/-- The value of a decimal digit. -/
def digit? (c : Char) : Option Nat :=
  if '0' ≤ c ∧ c ≤ '9' then some (c.toNat - 48) else none

/-- The number that digits of the given base spell. -/
def ofDigits (base : Nat) (ds : List Nat) : Nat := ds.foldl (fun n d => base * n + d) 0

/-- The numbers in patterns stay below this bound. -/
def numberBound : Nat := 4294967296

/-- The character with a given code point. -/
def charOf? (n : Nat) : Option Char :=
  if n.isValidChar then some (Char.ofNat n) else none

/-- Reads `count` hexadecimal digits, each with the space that verbose mode allows after it. -/
def readHexDigits (verbose : Bool) : Nat → List Char → Option (List Nat × List Char)
  | 0, cs => some ([], cs)
  | count + 1, cs =>
      match cs with
      | [] => none
      | c :: rest => do
          let d ← hexDigit? c
          let p ← readHexDigits verbose count (skipVerbose verbose rest)
          return (d :: p.1, p.2)

/-- Reads a code point in hexadecimal: `count` digits, or any number of them in braces. -/
def readHex (verbose : Bool) (count : Nat) (cs : List Char) : Option (Literal × List Char) :=
  match skipVerbose verbose cs with
  | '{' :: rest => do
      let p ← splitBraced verbose false rest
      let ds ← p.1.mapM hexDigit?
      if ds.isEmpty then none
      else
        let c ← charOf? (ofDigits 16 ds)
        return ({ char := c }, skipVerbose verbose p.2)
  | rest => do
      let p ← readHexDigits verbose count rest
      let c ← charOf? (ofDigits 16 p.1)
      return ({ char := c, byteForm := count == 2 }, p.2)

/-! ### Properties -/

/-- Splits a text at the first place where `mark` stands. -/
def splitAtMark (mark : List Char) : List Char → Option (List Char × List Char)
  | [] => none
  | c :: rest =>
      if mark.isPrefixOf (c :: rest) then some ([], (c :: rest).drop mark.length)
      else (splitAtMark mark rest).map fun p => (c :: p.1, p.2)

/-- Reads the name in the braces of a property escape: a lone name, or a name and a value joined by
`!=`, `:` or `=`, looked for in this order. -/
def propertyName (content : List Char) : PropertyName :=
  match splitAtMark ['!', '='] content with
  | some p => .valued true p.1 p.2
  | none => match splitAtMark [':'] content with
    | some p => .valued false p.1 p.2
    | none => match splitAtMark ['='] content with
      | some p => .valued false p.1 p.2
      | none => .lone content

/-- Reads what follows `\p`: a name in braces, or one character. -/
def readProperty (verbose : Bool) (cs : List Char) : Option (PropertyName × List Char) :=
  match skipVerbose verbose cs with
  | [] => none
  | '{' :: rest => (splitBraced verbose false rest).map fun p => (propertyName p.1, p.2)
  | c :: rest => some (.lone [c], skipVerbose verbose rest)

/-! ### Escapes -/

/-- What one escape sequence stands for. -/
inductive Primitive
  | literal (l : Literal)
  | perl (c : PerlClass) (negated : Bool)
  | property (p : PropertyName) (negated : Bool)
  | assertion (a : Assertion)

/-- The characters with a meaning of their own somewhere in a pattern. -/
def isMeta (c : Char) : Bool :=
  ['\\', '.', '+', '*', '?', '(', ')', '|', '[', ']', '{', '}', '^', '$', '#', '&', '-',
    '~'].contains c

/-- The characters that stand for themselves after a backslash: ASCII, except letters, digits and
angle brackets. -/
def standsForItself (c : Char) : Bool :=
  c.toNat < 128 && !c.isAlphanum && c != '<' && c != '>'

/-- The control characters with a letter of their own. -/
def controlEscape? (c : Char) : Option Char :=
  match c with
  | 'a' => some '\x07'
  | 'f' => some '\x0c'
  | 't' => some '\t'
  | 'n' => some '\n'
  | 'r' => some '\r'
  | 'v' => some '\x0b'
  | _ => none

/-- The assertions with a letter or sign of their own. -/
def assertionEscape? (c : Char) : Option Assertion :=
  match c with
  | 'A' => some .textStart
  | 'z' => some .textEnd
  | 'B' => some .notWordBoundary
  | '<' => some .wordStart
  | '>' => some .wordEnd
  | _ => none

/-- The named word boundaries. -/
def namedBoundary? (name : List Char) : Option Assertion :=
  match String.ofList name with
  | "start" => some .wordStart
  | "end" => some .wordEnd
  | "start-half" => some .wordStartHalf
  | "end-half" => some .wordEndHalf
  | _ => none

/-- Reads what follows `\b`. A brace whose contents start with a letter or a hyphen names a
boundary; any other brace is left for a repetition. -/
def readBoundary (verbose : Bool) (cs : List Char) : Option (Assertion × List Char) :=
  match cs with
  | '{' :: rest =>
      match skipVerbose verbose rest with
      | [] => none
      | c :: _ =>
          if c.isAlpha || c == '-' then do
            let p ← splitBraced verbose false rest
            let a ← namedBoundary? p.1
            return (a, p.2)
          else some (.wordBoundary, cs)
  | _ => some (.wordBoundary, cs)

/-- Reads what follows a backslash. -/
def readEscape (verbose : Bool) : List Char → Option (Primitive × List Char)
  | [] => none
  | c :: rest =>
      match c with
      | 'x' => (readHex verbose 2 rest).map fun p => (.literal p.1, p.2)
      | 'u' => (readHex verbose 4 rest).map fun p => (.literal p.1, p.2)
      | 'U' => (readHex verbose 8 rest).map fun p => (.literal p.1, p.2)
      | 'p' => (readProperty verbose rest).map fun p => (.property p.1 false, p.2)
      | 'P' => (readProperty verbose rest).map fun p => (.property p.1 true, p.2)
      | 'd' => some (.perl .digit false, rest)
      | 'D' => some (.perl .digit true, rest)
      | 's' => some (.perl .space false, rest)
      | 'S' => some (.perl .space true, rest)
      | 'w' => some (.perl .word false, rest)
      | 'W' => some (.perl .word true, rest)
      | 'b' => (readBoundary verbose rest).map fun p => (.assertion p.1, p.2)
      | _ =>
          match controlEscape? c, assertionEscape? c with
          | some d, _ => some (.literal { char := d }, rest)
          | none, some a => some (.assertion a, rest)
          | none, none => if standsForItself c then some (.literal { char := c }, rest) else none

end BannerMatch.Pattern
