import TypedExpr.Syntax.Token
import TypedExpr.Syntax.ParseError
import TypedExpr.Text.Blank
import TypedExpr.Text.Ident

/-! Splitting source text into tokens with byte spans. Whitespace (Unicode `White_Space`) separates
tokens and is dropped. -/

namespace TypedExpr.Lexer

open Text

def width (cs : List Char) : Nat := cs.foldr (fun c n => c.utf8Size + n) 0

def spanWhile (p : Char → Bool) : (cs : List Char) →
    List Char × { r : List Char // r.length ≤ cs.length }
  | [] => ([], ⟨[], Nat.le_refl _⟩)
  | c :: rest =>
    if p c then
      match spanWhile p rest with
      | (xs, ⟨r, h⟩) => (c :: xs, ⟨r, Nat.le_succ_of_le h⟩)
    else ([], ⟨c :: rest, Nat.le_refl _⟩)

def stringBody (q : Char) : (cs : List Char) →
    Option (List Char × { r : List Char // r.length < cs.length })
  | [] => none
  | c :: rest =>
    if c = q then some ([], ⟨rest, by simp⟩)
    else if c = '\\' then
      match rest with
      | [] => none
      | d :: more =>
        match stringBody q more with
        | some (body, ⟨r, h⟩) => some (c :: d :: body, ⟨r, by simp only [List.length_cons]; omega⟩)
        | none => none
    else
      match stringBody q rest with
      | some (body, ⟨r, h⟩) => some (c :: body, ⟨r, by simp only [List.length_cons]; omega⟩)
      | none => none

def digitsValue (cs : List Char) : Nat :=
  cs.foldl (fun n c => 10 * n + (c.toNat - '0'.toNat)) 0

abbrev Step (rest : List Char) := Except ParseError (Token × Nat × { r : List Char // r.length ≤ rest.length })

def number (c : Char) (rest : List Char) (pos : Nat) : Step rest :=
  match spanWhile Char.isDigit rest with
  | (ds, ⟨r, h⟩) =>
    let whole := c :: ds
    match r with
    | '.' :: d :: more =>
      if d.isDigit then
        match spanWhile Char.isDigit more with
        | (fs, ⟨r', h'⟩) =>
          let text := whole ++ '.' :: d :: fs
          .ok (.decimal (String.ofList text), text.length,
            ⟨r', by simp only [List.length_cons] at h; omega⟩)
      else
        let n := digitsValue whole
        if n < 2 ^ 64 then .ok (.integer n, whole.length, ⟨_, h⟩)
        else .error (.invalidLiteral "integer" (String.ofList whole) pos)
    | r =>
      let n := digitsValue whole
      if n < 2 ^ 64 then .ok (.integer n, whole.length, ⟨r, h⟩)
      else .error (.invalidLiteral "integer" (String.ofList whole) pos)

def word (c : Char) (rest : List Char) : Step rest :=
  match spanWhile isIdContinue rest with
  | (ds, ⟨r, h⟩) =>
    let name := String.ofList (c :: ds)
    .ok ((Token.keyword? name).getD (.ident name), width (c :: ds), ⟨r, h⟩)

def quoted (q : Char) (rest : List Char) (pos : Nat) : Step rest :=
  match stringBody q rest with
  | some (body, ⟨r, h⟩) => .ok (.str (String.ofList body), width body + 2, ⟨r, Nat.le_of_lt h⟩)
  | none => .error (.unclosedString pos)

def single (t : Token) (rest : List Char) : Step rest := .ok (t, 1, ⟨rest, Nat.le_refl _⟩)

def token (c : Char) (rest : List Char) (pos : Nat) : Step rest :=
  match c, rest with
  | '.', r => single .dot r
  | '(', r => single .lparen r
  | ')', r => single .rparen r
  | '[', r => single .lbracket r
  | ']', r => single .rbracket r
  | '{', r => single .lbrace r
  | '}', r => single .rbrace r
  | ',', r => single .comma r
  | '?', r => single .question r
  | ':', r => single .colon r
  | '+', r => single .plus r
  | '-', r => single .minus r
  | '*', r => single .star r
  | '/', r => single .slash r
  | '%', r => single .percent r
  | '=', '=' :: r => .ok (.equal, 2, ⟨r, by simp⟩)
  | '=', _ => .error (.unexpectedChar '=' pos)
  | '!', '=' :: r => .ok (.notEqual, 2, ⟨r, by simp⟩)
  | '!', r => single .not r
  | '<', '=' :: r => .ok (.lessEq, 2, ⟨r, by simp⟩)
  | '<', r => single .less r
  | '>', '=' :: r => .ok (.greaterEq, 2, ⟨r, by simp⟩)
  | '>', r => single .greater r
  | '&', '&' :: r => .ok (.and, 2, ⟨r, by simp⟩)
  | '|', '|' :: r => .ok (.or, 2, ⟨r, by simp⟩)
  | '\'', r => quoted '\'' r pos
  | '"', r => quoted '"' r pos
  | '#', '{' :: r => .ok (.hashBrace, 2, ⟨r, by simp⟩)
  | '#', d :: r =>
    if isIdStart d then
      match spanWhile isIdContinue r with
      | (ds, ⟨r', h⟩) =>
        .ok (.var (String.ofList (d :: ds)), 1 + width (d :: ds),
          ⟨r', by simp only [List.length_cons]; omega⟩)
    else .error (.unexpectedChar '#' pos)
  | '#', [] => .error (.unexpectedChar '#' pos)
  | c, r =>
    if c.isDigit then number c r pos
    else if isIdStart c then word c r
    else .error (.unexpectedChar c pos)

def scanFrom (cs : List Char) (pos : Nat) (acc : List (Spanned Token)) :
    Except ParseError (List (Spanned Token)) :=
  match spanWhile isBlank cs with
  | (_, ⟨[], _⟩) => .ok acc.reverse
  | (blank, ⟨c :: more, h⟩) =>
    let start := pos + width blank
    match token c more start with
    | .error e => .error e
    | .ok (t, w, ⟨r, hr⟩) =>
      have : r.length < cs.length := by simp only [List.length_cons] at h; omega
      scanFrom r (start + w) (⟨t, start, start + w⟩ :: acc)
termination_by cs.length

/-- The tokens of a source text with their byte spans. -/
def scan (s : String) : Except ParseError (List (Spanned Token)) :=
  scanFrom s.toList 0 []

end TypedExpr.Lexer
