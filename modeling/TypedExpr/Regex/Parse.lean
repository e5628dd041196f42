import TypedExpr.Regex.Node
import TypedExpr.Regex.Error
import TypedExpr.Regex.Property

/-! Reading a pattern into a `Node`, applying the flags as it goes. -/

namespace TypedExpr.Regex

/-- The flags in force. -/
structure Flags where
  caseless : Bool := false
  multiLine : Bool := false
  dotAll : Bool := false
  swapGreed : Bool := false
  unicode : Bool := true
  crlf : Bool := false
  spaced : Bool := false
  deriving Inhabited

/-- A flag, named by its letter. -/
inductive Flag where
  | caseless
  | multiLine
  | dotAll
  | swapGreed
  | unicode
  | crlf
  | spaced
  deriving DecidableEq

def Flag.ofChar? : Char → Option Flag
  | 'i' => some .caseless
  | 'm' => some .multiLine
  | 's' => some .dotAll
  | 'U' => some .swapGreed
  | 'u' => some .unicode
  | 'R' => some .crlf
  | 'x' => some .spaced
  | _ => none

/-- The flags with one of them set on or off. -/
def Flags.set (f : Flags) (on : Bool) : Flag → Flags
  | .caseless => { f with caseless := on }
  | .multiLine => { f with multiLine := on }
  | .dotAll => { f with dotAll := on }
  | .swapGreed => { f with swapGreed := on }
  | .unicode => { f with unicode := on }
  | .crlf => { f with crlf := on }
  | .spaced => { f with spaced := on }

abbrev FlagItem := Span × Option Flag

def Flags.apply (f : Flags) (items : List FlagItem) : Flags :=
  (items.foldl (fun (acc : Flags × Bool) (_, item) =>
    match item with
    | none => (acc.1, false)
    | some flag => (acc.1.set acc.2 flag, acc.2)) (f, true)).1

/-- A piece of a sequence: a node, or a flag group (which matches nothing but may not be repeated).
-/
inductive Piece where
  | node (n : Node)
  | flags

/-- An open group: the sequence before it, the span of its `(`, and the flags to restore when it
closes; or the alternatives read so far in the innermost group. -/
inductive Frame where
  | group (before : List Piece) (openSpan : Span) (saved : Flags)
  | alternation (alts : List Node)

/-- The node of a sequence kept last piece first. -/
def Piece.seq (pieces : List Piece) : Node :=
  let nodes := pieces.reverse.filterMap fun
    | .node n => some n
    | .flags => none
  match nodes with
  | [] => .empty
  | [n] => n
  | ns => .cat ns

/-- What a backslash or a single character stands for before flags are applied. -/
inductive Prim where
  /-- A character; `byte` marks the two-digit form `\xNN`. -/
  | lit (c : Char) (byte : Bool) (span : Span)
  | dot (span : Span)
  | look (l : Look) (span : Span)
  /-- `\d`, `\s`, `\w` by their letter, maybe negated. -/
  | perl (kind : Char) (negated : Bool) (span : Span)
  /-- A named class `\p{name}` or `\p{name=value}`, maybe negated. -/
  | named (name : String) (value : Option String) (negated : Bool) (span : Span)

def Prim.span : Prim → Span
  | .lit _ _ s | .dot s | .look _ s | .perl _ _ s | .named _ _ _ s => s

/-- The result of reading a group opener: a flag group, or a group with optional flags. -/
inductive Opener where
  | setFlags (items : List FlagItem)
  | group (openSpan : Span) (items : Option (List FlagItem))

/-- Set operations inside brackets. -/
inductive SetOp where
  | inter
  | diff
  | symmDiff

/-- An open bracket: the union outside it, whether it is negated, and the span of its opening; or a
set operation with its left operand. -/
inductive ClassFrame where
  | opened (outer : CharSet) (negated : Bool) (span : Span)
  | op (kind : SetOp) (lhs : CharSet)

/-- The state of reading: position, flags in force, capture names so far, and the first problem of
meaning. -/
structure Reading where
  pos : Pos
  flags : Flags
  names : List (String × Span)
  deferred : Option Error

abbrev Parse := ReaderT (Array Char) (StateT Reading (Except Error))

namespace Parse

def after (src : Array Char) (p : Pos) : Pos :=
  match src[p.idx]? with
  | some '\n' => ⟨p.idx + 1, p.line + 1, 1⟩
  | some _ => ⟨p.idx + 1, p.line, p.col + 1⟩
  | none => p

def here : Parse Pos := do return (← get).pos

def cur : Parse (Option Char) := do return (← read)[(← get).pos.idx]?

def peek : Parse (Option Char) := do return (← read)[(← get).pos.idx + 1]?

def atEnd : Parse Bool := do return (← cur).isNone

def bump : Parse Bool := do
  let src ← read
  modify fun s => { s with pos := after src s.pos }
  return !(← atEnd)

def seek (p : Pos) : Parse Unit := modify fun s => { s with pos := p }

def spanChar : Parse Span := do
  let p ← here
  return ⟨p, after (← read) p⟩

def spanHere : Parse Span := do return Span.at (← here)

def spanFrom (p : Pos) : Parse Span := do return ⟨p, ← here⟩

def fail {α : Type} (kind : ErrorKind) (span : Span) : Parse α := throw { kind, span }

def failWith {α : Type} (kind : ErrorKind) (span aux : Span) : Parse α :=
  throw { kind, span, aux := some aux }

def defer (kind : ErrorKind) (span : Span) : Parse Unit :=
  modify fun s => if s.deferred.isSome then s else { s with deferred := some { kind, span } }

def flags : Parse Flags := do return (← get).flags

def setFlags (f : Flags) : Parse Unit := modify fun s => { s with flags := f }

def writtenAt (src : Array Char) (i : Nat) : List Char → Bool
  | [] => true
  | c :: rest => src[i]? == some c && writtenAt src (i + 1) rest

def bumpIf (cs : List Char) : Parse Bool := do
  if writtenAt (← read) (← here).idx cs then
    for _ in cs do
      let _ ← bump
    return true
  else return false

def bumpIfAny : List (List Char) → Parse Bool
  | [] => return false
  | cs :: rest => do if ← bumpIf cs then return true else bumpIfAny rest

def skipComment : Nat → Parse Unit
  | 0 => return
  | fuel + 1 => do
    match ← cur with
    | none => return
    | some c =>
      let _ ← bump
      if c = '\n' then return else skipComment fuel

def skipSpace : Nat → Parse Unit
  | 0 => return
  | fuel + 1 => do
    match ← cur with
    | none => return
    | some c =>
      if Text.isBlank c then
        let _ ← bump
        skipSpace fuel
      else if c = '#' then
        let _ ← bump
        skipComment (← read).size
        skipSpace fuel
      else return

def bumpSpace : Parse Unit := do
  if (← flags).spaced then skipSpace ((← read).size + 1)

def bumpAndSpace : Parse Bool := do
  let _ ← bump
  bumpSpace
  return !(← atEnd)

def peekSpaceFrom (src : Array Char) (i : Nat) (inComment : Bool) (fallback : Nat) :
    Nat → Option Char
  | 0 => src[fallback]?
  | fuel + 1 =>
    match src[i]? with
    | none => src[fallback]?
    | some c =>
      if Text.isBlank c then peekSpaceFrom src (i + 1) inComment fallback fuel
      else if !inComment ∧ c = '#' then peekSpaceFrom src (i + 1) true fallback fuel
      else if inComment ∧ c = '\n' then peekSpaceFrom src (i + 1) false fallback fuel
      else src[i]?

def peekSpace : Parse (Option Char) := do
  if !(← flags).spaced then peek
  else if ← atEnd then return none
  else
    let src ← read
    let i := (← here).idx + 1
    return peekSpaceFrom src i false i src.size

def unclosedClass {α : Type} (frames : List ClassFrame) : Parse α := do
  match frames.find? fun | .opened .. => true | .op .. => false with
  | some (.opened _ _ span) => fail .classUnclosed span
  | _ => fail .classUnclosed (← spanHere)

def isHex (c : Char) : Bool :=
  ('0' ≤ c ∧ c ≤ '9') || ('a' ≤ c ∧ c ≤ 'f') || ('A' ≤ c ∧ c ≤ 'F')

def hexValue (cs : List Char) : Nat :=
  cs.foldl (fun acc c =>
    acc * 16 + (if c ≤ '9' then c.toNat - 48 else if c ≤ 'F' then c.toNat - 55 else c.toNat - 87)) 0

def scalar? (n : Nat) : Option Char :=
  if n < 0xD800 ∨ (0xE000 ≤ n ∧ n ≤ 0x10FFFF) then some (Char.ofNat n) else none

def hexBraceDigits : Nat → List Char → Parse (List Char)
  | 0, acc => return acc.reverse
  | fuel + 1, acc => do
    if (← bumpAndSpace) ∧ (← cur) ≠ some '}' then
      let c := (← cur).getD ' '
      if !isHex c then fail .escapeHexInvalidDigit (← spanChar)
      hexBraceDigits fuel (c :: acc)
    else return acc.reverse

def hexEscape (start : Pos) : Parse Prim := do
  let kind := (← cur).getD 'x'
  let width := if kind = 'x' then 2 else if kind = 'u' then 4 else 8
  if !(← bumpAndSpace) then fail .escapeUnexpectedEof (← spanHere)
  if (← cur) = some '{' then
    let bracePos ← here
    let digitsStart := (← spanChar).stop
    let digits ← hexBraceDigits ((← read).size + 1) []
    if ← atEnd then fail .escapeUnexpectedEof (← spanFrom bracePos)
    let digitsEnd ← here
    let _ ← bumpAndSpace
    if digits.isEmpty then fail .escapeHexEmpty (← spanFrom bracePos)
    match (if digits.length ≤ 8 then scalar? (hexValue digits) else none) with
    | none => fail .escapeHexInvalid ⟨digitsStart, digitsEnd⟩
    | some c => return .lit c false (← spanFrom start)
  else
    let digitsStart ← here
    let mut digits : List Char := []
    for i in List.range width do
      if i > 0 then
        if !(← bumpAndSpace) then fail .escapeUnexpectedEof (← spanHere)
      let c := (← cur).getD ' '
      if !isHex c then fail .escapeHexInvalidDigit (← spanChar)
      digits := digits ++ [c]
    let _ ← bumpAndSpace
    match scalar? (hexValue digits) with
    | none => fail .escapeHexInvalid (← spanFrom digitsStart)
    | some c => return .lit c (kind = 'x') (← spanFrom start)

def braceName : Nat → List Char → Parse (List Char)
  | 0, acc => return acc.reverse
  | fuel + 1, acc => do
    if (← bumpAndSpace) ∧ (← cur) ≠ some '}' then braceName fuel ((← cur).getD ' ' :: acc)
    else return acc.reverse

def splitNamed (name : String) : String × Option String × Bool :=
  match name.splitOn "!=" with
  | a :: rest@(_ :: _) => (a, some ("!=".intercalate rest), true)
  | _ =>
    match name.splitOn ":" with
    | a :: rest@(_ :: _) => (a, some (":".intercalate rest), false)
    | _ =>
      match name.splitOn "=" with
      | a :: rest@(_ :: _) => (a, some ("=".intercalate rest), false)
      | _ => (name, none, false)

def namedEscape (start : Pos) : Parse Prim := do
  let negated := (← cur) = some 'P'
  if !(← bumpAndSpace) then fail .escapeUnexpectedEof (← spanHere)
  if (← cur) = some '{' then
    let chars ← braceName ((← read).size + 1) []
    if ← atEnd then fail .escapeUnexpectedEof (← spanHere)
    let _ ← bump
    let (name, value, notEq) := splitNamed (String.ofList chars)
    return .named name value (negated != notEq) (← spanFrom start)
  else
    let c := (← cur).getD ' '
    if c = '\\' then fail .unicodeClassInvalid (← spanChar)
    let _ ← bumpAndSpace
    return .named (String.singleton c) none negated (← spanFrom start)

def boundaryName : Nat → List Char → Parse (List Char)
  | 0, acc => return acc.reverse
  | fuel + 1, acc => do
    match ← cur with
    | some c =>
      if c.isAlpha ∨ c = '-' then
        let _ ← bumpAndSpace
        boundaryName fuel (c :: acc)
      else return acc.reverse
    | none => return acc.reverse

def specialBoundary (wbStart : Pos) (ascii : Bool) : Parse (Option Look) := do
  let start ← here
  if !(← bumpAndSpace) then fail .specialWordOrRepetitionUnexpectedEof (← spanFrom wbStart)
  let contentStart ← here
  let c := (← cur).getD ' '
  if !(c.isAlpha ∨ c = '-') then
    seek start
    return none
  let name ← boundaryName ((← read).size + 1) []
  if (← cur) ≠ some '}' then fail .specialWordBoundaryUnclosed (← spanFrom start)
  let finish ← here
  let _ ← bump
  match String.ofList name with
  | "start" => return some (.wordStart ascii)
  | "end" => return some (.wordEnd ascii)
  | "start-half" => return some (.wordStartHalf ascii)
  | "end-half" => return some (.wordEndHalf ascii)
  | _ => fail .specialWordBoundaryUnrecognized ⟨contentStart, finish⟩

def isMeta (c : Char) : Bool :=
  "\\.+*?()|[]{}^$#&-~".toList.contains c

def isEscapable (c : Char) : Bool :=
  isMeta c || (c.toNat < 128 && !c.isAlphanum && c ≠ '<' && c ≠ '>')

def escape : Parse Prim := do
  let start ← here
  if !(← bump) then fail .escapeUnexpectedEof (← spanFrom start)
  let c := (← cur).getD ' '
  if c.isDigit then fail .unsupportedBackreference ⟨start, (← spanChar).stop⟩
  if c = 'x' ∨ c = 'u' ∨ c = 'U' then return ← hexEscape start
  if c = 'p' ∨ c = 'P' then return ← namedEscape start
  if "dswDSW".toList.contains c then
    let _ ← bump
    return .perl c.toLower c.isUpper (← spanFrom start)
  let _ ← bump
  let span ← spanFrom start
  if isMeta c || isEscapable c then return .lit c false span
  let ascii := !(← flags).unicode
  match c with
  | 'a' => return .lit '\x07' false span
  | 'f' => return .lit '\x0c' false span
  | 't' => return .lit '\t' false span
  | 'n' => return .lit '\n' false span
  | 'r' => return .lit '\r' false span
  | 'v' => return .lit '\x0b' false span
  | 'A' => return .look .start span
  | 'z' => return .look .finish span
  | 'b' =>
    if (← cur) = some '{' then
      match ← specialBoundary start ascii with
      | some l => return .look l (← spanFrom start)
      | none => return .look (.wordBoundary ascii) span
    else return .look (.wordBoundary ascii) span
  | 'B' => return .look (.notWordBoundary ascii) span
  | '<' => return .look (.wordStart ascii) span
  | '>' => return .look (.wordEnd ascii) span
  | _ => fail .escapeUnrecognized span

def primitive : Parse Prim := do
  let c := (← cur).getD ' '
  if c = '\\' then return ← escape
  let span ← spanChar
  let _ ← bump
  let f ← flags
  match c with
  | '.' => return .dot span
  | '^' =>
    return .look (if f.multiLine then (if f.crlf then .startLineCrlf else .startLine) else .start) span
  | '$' =>
    return .look (if f.multiLine then (if f.crlf then .finishLineCrlf else .finishLine) else .finish)
      span
  | _ => return .lit c false span

def perlSet (f : Flags) (kind : Char) : CharSet :=
  match kind, f.unicode with
  | 'd', true => CharSet.digit
  | 's', true => CharSet.space
  | 'w', true => CharSet.word
  | 'd', false => CharSet.asciiDigit
  | 's', false => CharSet.asciiSpace
  | _, _ => if f.unicode then CharSet.word else CharSet.asciiWord

def foldIf (f : Flags) (s : CharSet) : CharSet :=
  if f.caseless then (if f.unicode then s.caseFold else s.asciiCaseFold) else s

def namedSet (name : String) (value : Option String) (negated : Bool) (span : Span) :
    Parse CharSet := do
  let f ← flags
  if !f.unicode then
    defer .unicodeNotAllowed span
    return CharSet.none
  let found := match value with
    | none => namedClass name
    | some v => namedValueClass name v
  match found with
  | .error kind =>
    defer kind span
    return CharSet.none
  | .ok s =>
    let s := foldIf f s
    return if negated then s.complement else s

def primNode : Prim → Parse Node
  | .lit c byte span => do
    let f ← flags
    if !f.unicode ∧ byte ∧ c.toNat > 0x7F then defer .invalidUtf8 span
    return .chars (foldIf f (CharSet.single c))
  | .dot span => do
    let f ← flags
    if !f.unicode then defer .invalidUtf8 span
    if f.dotAll then return .chars CharSet.all
    else if f.crlf then return .chars (CharSet.ofRanges [(0x0A, 0x0A), (0x0D, 0x0D)]).complement
    else return .chars (CharSet.single '\n').complement
  | .look l _ => return .look l
  | .perl kind negated span => do
    let f ← flags
    let s := perlSet f kind
    if negated ∧ !f.unicode then defer .invalidUtf8 span
    return .chars (if negated then s.complement else s)
  | .named name value negated span => do
    return .chars (← namedSet name value negated span)

def classPrim : Parse Prim := do
  if (← cur) = some '\\' then escape
  else
    let c := (← cur).getD ' '
    let span ← spanChar
    let _ ← bump
    return .lit c false span

def classItemSet : Prim → Parse CharSet
  | .lit c _ _ => return CharSet.single c
  | .perl kind negated span => do
    let f ← flags
    if negated ∧ !f.unicode then defer .invalidUtf8 span
    let s := perlSet f kind
    return if negated then s.complement else s
  | .named name value negated span => namedSet name value negated span
  | p => fail .classEscapeInvalid p.span

def rangeEnd : Prim → Parse Char
  | .lit c _ _ => return c
  | p => fail .classRangeLiteral p.span

def classRange (frames : List ClassFrame) : Parse CharSet := do
  let first ← classPrim
  bumpSpace
  if ← atEnd then unclosedClass frames
  let next ← peekSpace
  if (← cur) ≠ some '-' ∨ next = some ']' ∨ next = some '-' then return ← classItemSet first
  if !(← bumpAndSpace) then unclosedClass frames
  let second ← classPrim
  let span : Span := ⟨first.span.start, second.span.stop⟩
  let a ← rangeEnd first
  let b ← rangeEnd second
  if a > b then fail .classRangeInvalid span
  return CharSet.ofRanges [(a.toNat, b.toNat)]

def asciiName : Nat → List Char → Parse (List Char)
  | 0, acc => return acc.reverse
  | fuel + 1, acc => do
    match ← cur with
    | some ':' => return acc.reverse
    | some c =>
      if ← bump then asciiName fuel (c :: acc) else return (c :: acc).reverse
    | none => return acc.reverse

def asciiClass : Parse (Option CharSet) := do
  let start ← here
  let back {α : Type} (a : α) : Parse α := do
    seek start
    return a
  if !(← bump) ∨ (← cur) ≠ some ':' then return ← back none
  if !(← bump) then return ← back none
  let negated := (← cur) = some '^'
  if negated then
    if !(← bump) then return ← back none
  let name ← asciiName ((← read).size + 1) []
  if ← atEnd then return ← back none
  if !(← bumpIf [':', ']']) then return ← back none
  match CharSet.ascii? (String.ofList name) with
  | none => back none
  | some s => return some (if negated then s.complement else s)

def classOpen : Parse (Bool × Span × CharSet) := do
  let start ← here
  if !(← bumpAndSpace) then fail .classUnclosed (← spanFrom start)
  let mut negated := false
  if (← cur) = some '^' then
    if !(← bumpAndSpace) then fail .classUnclosed (← spanFrom start)
    negated := true
  let mut union := CharSet.none
  let mut dashes := false
  for _ in List.range ((← read).size + 1) do
    if (← cur) = some '-' then
      union := union.union (CharSet.single '-')
      dashes := true
      if !(← bumpAndSpace) then fail .classUnclosed ⟨start, start⟩
    else break
  if !dashes ∧ (← cur) = some ']' then
    union := union.union (CharSet.single ']')
    if !(← bumpAndSpace) then fail .classUnclosed (← spanFrom start)
  return (negated, ← spanFrom start, union)

def applyOp (f : Flags) (kind : SetOp) (lhs rhs : CharSet) : CharSet :=
  let lhs := foldIf f lhs
  let rhs := foldIf f rhs
  match kind with
  | .inter => lhs.inter rhs
  | .diff => lhs.diff rhs
  | .symmDiff => lhs.symmDiff rhs

def popOp (f : Flags) (rhs : CharSet) : List ClassFrame → CharSet × List ClassFrame
  | .op kind lhs :: rest => (applyOp f kind lhs rhs, rest)
  | frames => (rhs, frames)

def classLoop : Nat → CharSet → List ClassFrame → Parse CharSet
  | 0, _, frames => unclosedClass frames
  | fuel + 1, union, frames => do
    bumpSpace
    if ← atEnd then unclosedClass frames
    let c := (← cur).getD ' '
    let next ← peek
    if c = '[' then
      if !frames.isEmpty then
        if let some s ← asciiClass then
          return ← classLoop fuel (union.union s) frames
      let (negated, span, inner) ← classOpen
      classLoop fuel inner (.opened union negated span :: frames)
    else if c = ']' then
      let f ← flags
      let (set, frames) := popOp f union frames
      match frames with
      | .opened outer negated span :: rest =>
        let _ ← bump
        let set := foldIf f set
        if negated ∧ !f.unicode then defer .invalidUtf8 (← spanFrom span.start)
        let set := if negated then set.complement else set
        if rest.isEmpty then return set
        else classLoop fuel (outer.union set) rest
      | _ => unclosedClass frames
    else if (c = '&' ∧ next = some '&') ∨ (c = '-' ∧ next = some '-') ∨ (c = '~' ∧ next = some '~') then
      let _ ← bump
      let _ ← bump
      let kind := if c = '&' then SetOp.inter else if c = '-' then SetOp.diff else SetOp.symmDiff
      let (lhs, frames) := popOp (← flags) union frames
      classLoop fuel CharSet.none (.op kind lhs :: frames)
    else
      let s ← classRange frames
      classLoop fuel (union.union s) frames

def decimal : Parse (Except Error Nat) := do
  for _ in List.range ((← read).size + 1) do
    match ← cur with
    | some c => if Text.isBlank c then let _ ← bump else break
    | none => break
  let start ← here
  let mut digits : List Char := []
  for _ in List.range ((← read).size + 1) do
    match ← cur with
    | some c =>
      if c.isDigit then
        digits := digits ++ [c]
        let _ ← bumpAndSpace
      else break
    | none => break
  let span ← spanFrom start
  for _ in List.range ((← read).size + 1) do
    match ← cur with
    | some c => if Text.isBlank c then let _ ← bumpAndSpace else break
    | none => break
  if digits.isEmpty then return .error { kind := .repetitionCountDecimalEmpty, span }
  let n := digits.foldl (fun acc d => acc * 10 + (d.toNat - 48)) 0
  if n < 2 ^ 32 then return .ok n else return .error { kind := .decimalInvalid, span }

def orFail (r : Except Error Nat) : Parse Nat :=
  match r with
  | .ok n => return n
  | .error e => throw e

def lastNode (concat : List Piece) : Parse (Node × List Piece) := do
  match concat with
  | .node n :: rest => return (n, rest)
  | _ => fail .repetitionMissing (← spanHere)

def uncounted (concat : List Piece) (min : Nat) (max : Option Nat) : Parse (List Piece) := do
  let (n, rest) ← lastNode concat
  let mut greedy := true
  if (← bump) ∧ (← cur) = some '?' then
    greedy := false
    let _ ← bump
  let swap := (← flags).swapGreed
  return .node (.repetition min max (greedy != swap) n) :: rest

def counted (concat : List Piece) : Parse (List Piece) := do
  let start ← here
  let (n, rest) ← lastNode concat
  if !(← bumpAndSpace) then fail .repetitionCountUnclosed (← spanFrom start)
  let low ← decimal
  if ← atEnd then fail .repetitionCountUnclosed (← spanFrom start)
  let (min, max) ← if (← cur) = some ',' then do
      if !(← bumpAndSpace) then fail .repetitionCountUnclosed (← spanFrom start)
      if (← cur) ≠ some '}' then
        let lo ← orFail low
        let hi ← orFail (← decimal)
        pure (lo, some hi)
      else pure (← orFail low, none)
    else do
      let lo ← orFail low
      pure (lo, some lo)
  if (← cur) ≠ some '}' then fail .repetitionCountUnclosed (← spanFrom start)
  let mut greedy := true
  if (← bumpAndSpace) ∧ (← cur) = some '?' then
    greedy := false
    let _ ← bump
  let opSpan ← spanFrom start
  if let some hi := max then
    if min > hi then fail .repetitionCountInvalid opSpan
  let swap := (← flags).swapGreed
  return .node (.repetition min max (greedy != swap) n) :: rest

def flagItems : Nat → List FlagItem → Option Span → Parse (List FlagItem)
  | 0, items, _ => return items.reverse
  | fuel + 1, items, lastNeg => do
    let c := (← cur).getD ':'
    if c = ':' ∨ c = ')' then
      if let some span := lastNeg then fail .flagDanglingNegation span
      return items.reverse
    let span ← spanChar
    let (item, lastNeg) ← if c = '-' then do
        if let some (orig, _) := items.find? fun (_, i) => i.isNone then
          failWith .flagRepeatedNegation span orig
        pure ((span, none), some span)
      else do
        match Flag.ofChar? c with
        | none => fail .flagUnrecognized span
        | some flag =>
          if let some (orig, _) := items.find? fun (_, i) => i = some flag then
            failWith .flagDuplicate span orig
          pure ((span, some flag), none)
    if !(← bump) then fail .flagUnexpectedEof (← spanHere)
    flagItems fuel (item :: items) lastNeg

def isNameChar (c : Char) (first : Bool) : Bool :=
  if first then c = '_' || Text.isAlphabetic c
  else c = '_' || c = '.' || c = '[' || c = ']' || Text.isAlphanumeric c

def captureName : Parse Unit := do
  if ← atEnd then fail .groupNameUnexpectedEof (← spanHere)
  let start ← here
  let mut name : List Char := []
  for _ in List.range ((← read).size + 1) do
    let c := (← cur).getD '>'
    if c = '>' then break
    if !isNameChar c ((← here) = start) then fail .groupNameInvalid (← spanChar)
    name := name ++ [c]
    if !(← bump) then break
  let finish ← here
  if ← atEnd then fail .groupNameUnexpectedEof (← spanHere)
  let _ ← bump
  if name.isEmpty then fail .groupNameEmpty ⟨start, start⟩
  let span : Span := ⟨start, finish⟩
  let text := String.ofList name
  match (← get).names.lookup text with
  | some orig => failWith .groupNameDuplicate span orig
  | none => modify fun s => { s with names := (text, span) :: s.names }

def opener : Parse Opener := do
  let openSpan ← spanChar
  let _ ← bump
  bumpSpace
  if ← bumpIfAny [['?', '='], ['?', '!'], ['?', '<', '='], ['?', '<', '!']] then
    fail .unsupportedLookAround ⟨openSpan.start, ← here⟩
  let inner ← spanHere
  if ← bumpIfAny [['?', 'P', '<'], ['?', '<']] then
    captureName
    return .group openSpan none
  if ← bumpIf ['?'] then
    if ← atEnd then fail .groupUnclosed (← spanHere)
    let items ← flagItems ((← read).size + 1) [] none
    let closing := (← cur) = some ')'
    let _ ← bump
    if closing then
      if items.isEmpty then fail .repetitionMissing inner
      return .setFlags items
    return .group openSpan (some items)
  return .group openSpan none

def closeGroup (concat : List Piece) (frames : List Frame) : Parse (List Piece × List Frame) := do
  let (before, span, saved, alts, rest) ← match frames with
    | .group before span saved :: rest => pure (before, span, saved, none, rest)
    | .alternation alts :: .group before span saved :: rest => pure (before, span, saved, some alts, rest)
    | _ => fail .groupUnopened (← spanChar)
  let _ := span
  setFlags saved
  let _ ← bump
  let body := match alts with
    | none => Piece.seq concat
    | some alts => .alt (alts.reverse ++ [Piece.seq concat])
  return (.node body :: before, rest)

def finishAll (concat : List Piece) (frames : List Frame) : Parse Node := do
  match frames with
  | [] => return Piece.seq concat
  | [.alternation alts] => return .alt (alts.reverse ++ [Piece.seq concat])
  | .alternation _ :: .group _ span _ :: _ => fail .groupUnclosed span
  | .group _ span _ :: _ => fail .groupUnclosed span
  | .alternation _ :: _ => fail .groupUnclosed (← spanHere)

def mainLoop : Nat → List Piece → List Frame → Parse Node
  | 0, _, _ => do fail .groupUnclosed (← spanHere)
  | fuel + 1, concat, frames => do
    bumpSpace
    match ← cur with
    | none => finishAll concat frames
    | some '(' =>
      match ← opener with
      | .setFlags items =>
        setFlags ((← flags).apply items)
        mainLoop fuel (.flags :: concat) frames
      | .group span items =>
        let saved ← flags
        if let some items := items then setFlags (saved.apply items)
        mainLoop fuel [] (.group concat span saved :: frames)
    | some ')' =>
      let (concat, frames) ← closeGroup concat frames
      mainLoop fuel concat frames
    | some '|' =>
      let frames := match frames with
        | .alternation alts :: rest => .alternation (Piece.seq concat :: alts) :: rest
        | _ => .alternation [Piece.seq concat] :: frames
      let _ ← bump
      mainLoop fuel [] frames
    | some '[' =>
      let s ← classLoop ((← read).size + 1) CharSet.none []
      mainLoop fuel (.node (.chars s) :: concat) frames
    | some '?' => mainLoop fuel (← uncounted concat 0 (some 1)) frames
    | some '*' => mainLoop fuel (← uncounted concat 0 none) frames
    | some '+' => mainLoop fuel (← uncounted concat 1 none) frames
    | some '{' => mainLoop fuel (← counted concat) frames
    | some _ =>
      let n ← primNode (← primitive)
      mainLoop fuel (.node n :: concat) frames

end Parse

def parsePattern (pattern : String) : Except Error Node :=
  let src := pattern.toList.toArray
  let start : Reading := ⟨Pos.origin, {}, [], none⟩
  match ((Parse.mainLoop (src.size + 1) [] []).run src).run start with
  | .error e => .error e
  | .ok (node, st) =>
    match st.deferred with
    | some e => .error e
    | none => .ok node

end TypedExpr.Regex
