import GameArchive.Script.Grammar.RegularExpression.Basic
import GameArchive.Text.CharacterName.Lookup

/-!
# Regular expressions: the check

Alternatives hold elements, an element may be repeated, and a group holds alternatives again. The
check accepts what has a meaning in this notation: every bracket and parenthesis is closed, nothing
is repeated that stands for a place, references lead to closed groups, flags for the whole stand at
the beginning, and a look-behind has one width.
-/

namespace GameArchive
namespace Script
namespace Grammar
namespace RegularExpression

/-! ## Escapes and sets -/

def octalDigits (limit : Nat) : Reader Text := takeWhile limit (·.isOctalDigit)

/-- The number that exactly so many hexadecimal digits write. -/
def hexDigits (count : Nat) : Reader Nat := do
  let digits ← takeWhile count (·.isHexDigit)
  require (digits.length = count)
  return Text.hexNumber digits

/-- The number of the character whose name stands in braces. -/
def namedCharacter : Reader Nat := do
  expect '\x7b'
  match CodePoint.named? (← takeUntil '\x7d') with
  | some c => return c.val
  | none => failure

/-- The number of the character that an escape in a set means; none for a class of characters. -/
def escapeInSet (c : CodePoint) : Reader (Option Nat) := do
  if (Text.ofString "dDsSwW").contains c then return none
  else if c = 'a' then return some 0x07
  else if let some d := controlEscape? c then return some d.val
  else if c = 'N' then some <$> namedCharacter
  else if c = 'x' then some <$> hexDigits 2
  else if c = 'u' then some <$> hexDigits 4
  else if c = 'U' then
    let n ← hexDigits 8
    require (n < 0x110000)
    return some n
  else if c.isOctalDigit then
    let n := Text.octalNumber (c :: (← octalDigits 2))
    require (n < 256)
    return some n
  else
    require (!c.isDigit && !c.isLetter)
    return some c.val

/-- What an element is to a repetition behind it. -/
inductive Role where
  /-- A place in the text, which cannot be repeated. -/
  | anchor
  /-- Repeated already. -/
  | repetition
  | other
deriving DecidableEq

structure Element where
  role : Role
  width : Width

namespace Element

def anchor : Element := ⟨.anchor, .zero⟩

def one : Element := ⟨.other, .one⟩

def other (w : Width) : Element := ⟨.other, w⟩

end Element

/-- A group by its number, or a character by three octal digits; `c` is the first digit. -/
def reference (c : CodePoint) : Reader Element := do
  let second ← takeWhile 1 (·.isDigit)
  let third ←
    if (c :: second).all (·.isOctalDigit) && !second.isEmpty then octalDigits 1 else pure []
  if !third.isEmpty then
    require (Text.octalNumber (c :: (second ++ third)) < 256)
    return .one
  else
    let number := Text.digitsValue (c :: second)
    let width ← closedGroup number
    requireKnown number
    return .other width

def escape (c : CodePoint) : Reader Element := do
  if (Text.ofString "AbBZ").contains c then return .anchor
  else if c = '0' then
    let _ ← octalDigits 2
    return .one
  else if c.isDigit then reference c
  else
    let _ ← escapeInSet c
    return .one

/-- A character of a set as its number; none for a class. -/
def setMember : Piece → Reader (Option Nat)
  | .plain c => return some c.val
  | .escaped c => escapeInSet c

/-- The members of a set up to the closing bracket, which is a member where it comes first. -/
def setFrom : (fuel : Nat) → (first : Bool) → Reader Unit
  | 0, _ => failure
  | fuel + 1, first => do
    let p ← take
    if !first && p.is ']' then return ()
    let low ← setMember p
    if ← skip '-' then
      let q ← take
      if q.is ']' then return ()
      match low, ← setMember q with
      | some low, some high =>
        require (low ≤ high)
        setFrom fuel false
      | _, _ => failure
    else setFrom fuel false

/-- A set behind its opening bracket. -/
def charSet : Reader Unit := do
  let _ ← skip '^'
  setFrom (← piecesLeft) true

/-! ## Repetitions -/

/-- A bound of a repetition, which is limited; none where no digits are. -/
def bound (digits : Text) : Reader (Option Nat) := do
  require (digits.length ≤ 4300 && Text.digitsValue digits < Nat.pow 2 32 - 1)
  return if digits.isEmpty then none else some (Text.digitsValue digits)

/-- The bounds behind an opening brace. Without bounds and a closing brace the brace is a
character. -/
def bounds? : Reader (Option (Nat × Option Nat)) := do
  let s ← get
  let low ← takeWhile s.rest.length (·.isDigit)
  let comma ← skip ','
  let high ← if comma then takeWhile s.rest.length (·.isDigit) else pure low
  if (low.isEmpty && !comma) || !(← skip '\x7d') then
    set s
    return none
  else
    let least := (← bound low).getD 0
    let most ← bound high
    require (most.all (least ≤ ·))
    return some (least, most)

/-- How often what stands before a sign is repeated; none if the sign is a character. -/
def repetition? (sign : CodePoint) : Reader (Option (Nat × Option Nat)) := do
  if sign = '?' then return some (0, some 1)
  else if sign = '*' then return some (0, none)
  else if sign = '+' then return some (1, none)
  else bounds?

/-- Elements that follow each other: the width of all but the last one, and the last one. -/
structure Sequence where
  done : Width
  last : Option Element

namespace Sequence

def empty : Sequence := ⟨.zero, none⟩

def width (s : Sequence) : Width := s.done.add ((s.last.map (·.width)).getD .zero)

def push (s : Sequence) (e : Element) : Sequence := ⟨s.width, some e⟩

/-- Repeats the last element. Behind the bounds a sign says how the repetition is tried. -/
def repeatLast (s : Sequence) (least : Nat) (most : Option Nat) : Reader Sequence := do
  match s.last with
  | some ⟨.other, w⟩ =>
    modify fun p => { p with repeats := true }
    if !(← skip '?') then
      let _ ← skip '+'
    return { s with last := some ⟨.repetition, w.times least most⟩ }
  | _ => failure

end Sequence

/-! ## Groups -/

/-- What contains itself: alternatives, and one of them. `blanks` holds where blanks are left
out. -/
inductive Goal where
  | alternatives (blanks : Bool)
  | branch (blanks : Bool)

abbrev Below := Goal → Reader Width

/-- Alternatives up to a closing parenthesis. -/
def enclosed (below : Below) (blanks : Bool) : Reader Width := do
  let w ← below (.alternatives blanks)
  expect ')'
  return w

/-- A group that can be referred to. -/
def capturing (below : Below) (blanks : Bool) (name : Option Text) : Reader Element := do
  let number ← openGroup name
  let w ← enclosed below blanks
  closeGroup number w
  return .other w

def identifierUntil (close : Char) : Reader Text := do
  let name ← takeUntil close
  require name.isIdentifier
  return name

/-- A group with a name, or the text that such a group has matched. -/
def named (below : Below) (blanks : Bool) : Reader Element := do
  if ← skip '<' then capturing below blanks (some (← identifierUntil '>'))
  else
    expect '='
    let number ← groupNamed (← identifierUntil ')')
    let width ← closedGroup number
    requireKnown number
    return .other width

def lookBehind (below : Below) (blanks : Bool) : Reader Element := do
  let sign ← take
  require (sign.is '=' || sign.is '!')
  let outer := (← get).before
  modify fun s => { s with before := some (outer.getD s.groups.length) }
  let w ← enclosed below blanks
  modify fun s => { s with before := outer }
  require w.isFixed
  return .other .zero

/-- The number that a condition writes: blanks around it, a plus sign before it and single
underscores between digits are allowed. -/
def groupNumber? (t : Text) : Option Nat :=
  let t := Text.trim (·.isBlank) t
  let t := if t.head? = some (CodePoint.ofChar '+') then t.tail else t
  let digits := t.filter fun c : CodePoint => c ≠ '_'
  if !(Text.split (CodePoint.ofChar '_') t).all (!·.isEmpty) ∨ 4300 < digits.length then none
  else (digits.mapM CodePoint.decimalValue?).map (·.foldl (fun n d => 10 * n + d) 0)

/-- The group that a condition asks for. One that is asked for by number may come later. -/
def conditionGroup : Reader Nat := do
  let name ← takeUntil ')'
  if name.isIdentifier then groupNamed name
  else match groupNumber? name with
    | none => failure
    | some number =>
      require (0 < number)
      modify fun s => { s with asked := number :: s.asked }
      return number

/-- One alternative if a group has matched, and another if it has not. -/
def conditional (below : Below) (blanks : Bool) : Reader Element := do
  let number ← conditionGroup
  requireKnown number
  let yes ← below (.branch blanks)
  let no ← if ← skip '|' then below (.branch blanks) else pure .zero
  expect ')'
  return .other (yes.either no)

def isFlag (c : CodePoint) : Bool := (Text.ofString "iLmsxatu").contains c

def hasAny (letters : Text) (wanted : String) : Bool := (Text.ofString wanted).any letters.contains

/-- Flags behind a question mark: for the whole, which gives no element, or for a group. `c` is the
first character, and `opening` holds at the beginning. -/
def flagged (below : Below) (blanks opening : Bool) (c : CodePoint) : Reader (Option Element) := do
  let more ← if isFlag c then takeWhile (← piecesLeft) isFlag else pure []
  let on := if isFlag c then c :: more else []
  require !(hasAny on "L" || (hasAny on "a" && hasAny on "u"))
  if !on.isEmpty && (← skip ')') then
    require opening
    modify fun s => { s with flags := on ++ s.flags }
    return none
  else
    let minus : Bool ← if on.isEmpty then pure (decide (c = CodePoint.ofChar '-')) else skip '-'
    let off ← if minus then takeWhile (← piecesLeft) isFlag else pure []
    require (minus == !off.isEmpty && (minus || !on.isEmpty))
    expect ':'
    require !(hasAny on "t" || hasAny off "auLt" || on.any off.contains)
    let blanks := (blanks || hasAny on "x") && !hasAny off "x"
    return some (.other (← enclosed below blanks))

/-- A parenthesis, behind it; a comment and flags for the whole give no element. -/
def group (below : Below) (blanks opening : Bool) : Reader (Option Element) := do
  if !(← skip '?') then capturing below blanks none
  else match ← take with
    | .escaped _ => failure
    | .plain c =>
      if c = 'P' then named below blanks
      else if c = ':' ∨ c = '>' then return some (.other (← enclosed below blanks))
      else if c = '=' ∨ c = '!' then
        let _ ← enclosed below blanks
        return some (.other .zero)
      else if c = '<' then lookBehind below blanks
      else if c = '(' then conditional below blanks
      else if c = '#' then
        let _ ← takeComment
        return none
      else flagged below blanks opening c
where
  /-- What stands before the end of a comment. -/
  takeComment : Reader Unit := do
    modify fun s => { s with rest := s.rest.dropWhile (!·.is ')') }
    expect ')'

/-! ## Alternatives -/

/-- Leaves out the rest of a line. -/
def skipLine : Reader Unit :=
  modify fun s => { s with rest := (s.rest.dropWhile (!·.is '\n')).tail }

def isIgnored (c : CodePoint) : Bool := (0x09 ≤ c.val && c.val ≤ 0x0d) || c = ' '

/-- Elements up to the end of the alternative. `first` holds in the first alternative of the whole,
where flags may decide whether blanks are left out. -/
def elements (below : Below) : (fuel : Nat) → (blanks first : Bool) → Sequence → Reader Width
  | 0, _, _, _ => failure
  | fuel + 1, blanks, first, s => do
    match ← ahead? with
    | none => return s.width
    | some (.escaped c) =>
      let _ ← take
      elements below fuel blanks first (s.push (← escape c))
    | some (.plain c) =>
      if c = '|' ∨ c = ')' then return s.width
      let _ ← take
      if blanks && isIgnored c then elements below fuel blanks first s
      else if blanks && c = CodePoint.ofChar '#' then
        skipLine
        elements below fuel blanks first s
      else if c = '[' then
        charSet
        elements below fuel blanks first (s.push .one)
      else if c = '^' ∨ c = '$' then elements below fuel blanks first (s.push .anchor)
      else if c = '(' then
        match ← group below blanks (first && s.last.isNone) with
        | some e => elements below fuel blanks first (s.push e)
        | none =>
          let flags := (← get).flags
          elements below fuel (if first then hasAny flags "x" else blanks) first s
      else if (Text.ofString "*+?\x7b").contains c then
        match ← repetition? c with
        | some (least, most) => elements below fuel blanks first (← s.repeatLast least most)
        | none => elements below fuel blanks first (s.push .one)
      else elements below fuel blanks first (s.push .one)

/-- One alternative. -/
def branch (below : Below) (blanks first : Bool) : Reader Width := do
  elements below ((← piecesLeft) + 1) blanks first .empty

/-- Further alternatives after bars. -/
def branchesFrom (read : Reader Width) : (fuel : Nat) → Width → Reader Width
  | 0, _ => failure
  | fuel + 1, w => do
    if ← skip '|' then branchesFrom read fuel (w.either (← read)) else return w

def alternatives (below : Below) (blanks : Bool) : Reader Width := do
  let first ← branch below blanks false
  branchesFrom (branch below blanks false) ((← piecesLeft) + 1) first

/-- What a goal stands for; the first argument bounds how deep groups nest. -/
def produce : (fuel : Nat) → Goal → Reader Width
  | 0, _ => failure
  | fuel + 1, .alternatives blanks => alternatives (produce fuel) blanks
  | fuel + 1, .branch blanks => branch (produce fuel) blanks false

/-- A whole regular expression. Its flags must go together, and the groups that conditions ask for
must exist. -/
def whole (below : Below) : Reader Unit := do
  let first ← branch below false true
  let later : Reader Width := do
    branch below (hasAny (← get).flags "x") false
  let _ ← branchesFrom later ((← piecesLeft) + 1) first
  let s ← get
  require s.rest.isEmpty
  require !(hasAny s.flags "a" && hasAny s.flags "u")
  require !(hasAny s.flags "t" && s.repeats)
  require (s.asked.all (· ≤ s.groups.length))

/-- Whether the text between two slashes is a regular expression. -/
def isValid (body : Text) : Bool :=
  match (decodeEscapes? body.length body).map joinSurrogates >>= pieces? with
  | none => false
  | some pieces => ((whole (produce (pieces.length + 1))).run (.start pieces)).isSome

end RegularExpression
end Grammar
end Script
end GameArchive
