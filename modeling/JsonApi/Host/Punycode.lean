import JsonApi.Text

/-!
# Punycode

A text is written in ASCII as its ASCII characters followed by the insertions that give back the
others: for each, in the order of codes, how many code points and places the insertion skips, as a
number of variable length to the base 36 whose digit thresholds adapt.
-/

namespace JsonApi.Host.Punycode

/-- The threshold of the digit at a place, counted from 1. -/
def threshold (place bias : Nat) : Nat := min 26 (max 1 (36 * place - bias))

/-- A distance divided until it is small, and 36 for each division. -/
def settle : Nat → Nat → Nat → Nat × Nat
  | 0, delta, sum => (delta, sum)
  | fuel + 1, delta, sum =>
    if 455 < delta then settle fuel (delta / 35) (sum + 36) else (delta, sum)

/-- The bias after an insertion with a distance into a text of a length. -/
def adapt (delta : Nat) (first : Bool) (length : Nat) : Nat :=
  let delta := if first then delta / 700 else delta / 2
  let delta := delta + delta / length
  let (delta, sum) := settle delta delta 0
  sum + 36 * delta / (delta + 38)

/-- The character of a digit. -/
def digit (d : Nat) : Char := if d < 26 then Char.ofNat (97 + d) else Char.ofNat (48 + d - 26)

/-- The value of a digit. -/
def digit? (c : CodePoint) : Option Nat :=
  let n := c.toNat
  if 97 ≤ n ∧ n ≤ 122 then some (n - 97)
  else if 65 ≤ n ∧ n ≤ 90 then some (n - 65)
  else if 48 ≤ n ∧ n ≤ 57 then some (n - 48 + 26)
  else none

/-- The digits of a number, as far as `fuel` allows. -/
def number (bias : Nat) : Nat → Nat → Nat → List Char
  | 0, _, _ => []
  | fuel + 1, place, n =>
    let t := threshold place bias
    if n < t then [digit n]
    else digit (t + (n - t) % (36 - t)) :: number bias fuel (place + 1) ((n - t) / (36 - t))

/-- The number at the front of a text, and the text behind it. -/
def number? (bias : Nat) (place weight sum : Nat) : Text → Option (Nat × Text)
  | [] => none
  | c :: rest => do
    let d ← digit? c
    let t := threshold place bias
    let sum := sum + d * weight
    if d < t then some (sum, rest) else number? bias (place + 1) (weight * (36 - t)) sum rest

theorem length_lt_of_number? {bias place weight sum n : Nat} {t rest : Text}
    (h : number? bias place weight sum t = some (n, rest)) : rest.length < t.length := by
  induction t generalizing place weight sum with
  | nil => simp [number?] at h
  | cons c t ih =>
    cases hd : digit? c with
    | none => simp [number?, hd] at h
    | some d =>
      simp only [number?, hd, Option.bind_eq_bind, Option.bind_some] at h
      split at h
      · simp only [Option.some.injEq, Prod.mk.injEq] at h
        simp [h.2]
      · have := ih h
        simp
        omega

/-- The state while insertions are written: the code that is due, the distance so far, the bias,
and how many characters have been written. -/
structure Progress where
  code : Nat
  delta : Nat
  bias : Nat
  written : Nat

/-- The insertions for one code, at each of its places in the text. -/
def insertionsOf (ascii length code : Nat) : Progress → List Nat → Progress × List Char
  | p, [] => (p, [])
  | p, c :: cs =>
    -- a smaller character is in the text already, so the insertion could be behind it
    if c < code then insertionsOf ascii length code { p with delta := p.delta + 1 } cs
    else if c = code then
      let shown := number p.bias (length + p.delta) 1 p.delta
      let bias := adapt p.delta (p.written = ascii) (p.written + 1)
      let (p, rest) := insertionsOf ascii length code
        { p with delta := 0, bias := bias, written := p.written + 1 } cs
      (p, shown ++ rest)
    else insertionsOf ascii length code p cs

/-- The insertions for codes in ascending order. -/
def insertions (ascii : Nat) (text : List Nat) : Progress → List Nat → List Char
  | _, [] => []
  | p, code :: codes =>
    let p := { p with delta := p.delta + (code - p.code) * (p.written + 1), code := code }
    let (p, shown) := insertionsOf ascii text.length code p text
    shown ++ insertions ascii text { p with delta := p.delta + 1, code := code + 1 } codes

/-- The ASCII form of a text. -/
def encode (t : Text) : Text :=
  let codes := t.map CodePoint.toNat
  let ascii := t.filter CodePoint.isAscii
  let others := ((codes.filter (0x80 ≤ ·)).mergeSort (· ≤ ·)).eraseDups
  let shown := insertions ascii.length codes ⟨0x80, 0, 72, ascii.length⟩ others
  (if ascii = [] then [] else ascii ++ ("-" : Text)) ++ Text.ofChars shown

/-- The text after the insertions that are left.  `first` tells that none has been made. -/
def insertAll (first : Bool) (code place bias : Nat) (base : Text) (t : Text) : Option Text :=
  match t with
  | [] => some base
  | c :: cs =>
    match hn : number? bias 1 1 0 (c :: cs) with
    | none => none
    | some (delta, rest) =>
      have : rest.length ≤ cs.length := Nat.le_of_lt_succ (length_lt_of_number? hn)
      let place := place + delta
      let code := code + place / (base.length + 1)
      let place := place % (base.length + 1)
      if 0x10FFFF < code then none
      else
        -- the next character of this code comes behind this one at the earliest
        let base := base.take place ++ CodePoint.ofNat code :: base.drop place
        insertAll false code (place + 1) (adapt delta first base.length) base rest
  termination_by t.length

/-- The text of an ASCII form. -/
def decode (t : Text) : Option Text :=
  if t.contains (.scalar '-') then
    let extended := (t.reverse.takeWhile (· ≠ .scalar '-')).reverse
    let base := t.take (t.length - extended.length - 1)
    insertAll true 0x80 0 72 base extended
  else insertAll true 0x80 0 72 [] t

end JsonApi.Host.Punycode
