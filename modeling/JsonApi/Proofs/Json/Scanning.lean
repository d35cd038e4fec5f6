import JsonApi.Json.Writer
import JsonApi.Proofs.Json.Numeral

/-!
# Scanning what was written

The tokens at the front of a written text, and what they do to the state of the reader.  Blanks
are skipped (`lexemes_blanks`), a string is scanned as its contents whatever code points it holds
(`stringRest_writeCodePoint`), and a token that fits takes the reader one step (`run_scan`).
-/

namespace JsonApi

namespace Json

/-! ### Blanks and tokens -/

theorem lexemes_of_nil {t : Text} (h : t.dropWhile isBlank = []) : lexemes t = [] := by
  rw [lexemes.eq_def]
  split <;> simp_all

theorem lexemes_of_error {t r : Text} {c : CodePoint} {e : Unread}
    (h : t.dropWhile isBlank = c :: r) (hs : scan c r = .error e) :
    lexemes t = [⟨c :: r, .error e⟩] := by
  rw [lexemes.eq_def]
  split <;> rename_i he <;> rw [h] at he <;> cases he
  split <;> rename_i hs' <;> rw [hs] at hs' <;> cases hs'
  rfl

theorem lexemes_of_ok {t r rest : Text} {c : CodePoint} {token : Token}
    (h : t.dropWhile isBlank = c :: r) (hs : scan c r = .ok (token, rest)) :
    lexemes t = ⟨c :: r, .ok token⟩ :: lexemes rest := by
  rw [lexemes.eq_def]
  split <;> rename_i he <;> rw [h] at he <;> cases he
  split <;> rename_i hs' <;> rw [hs] at hs' <;> cases hs'
  rfl

theorem lexemes_blank {c : CodePoint} {t : Text} (h : isBlank c = true) :
    lexemes (c :: t) = lexemes t := by
  have hdrop : (c :: t).dropWhile isBlank = t.dropWhile isBlank := List.dropWhile_cons_of_pos h
  cases ht : t.dropWhile isBlank with
  | nil => rw [lexemes_of_nil ht, lexemes_of_nil (hdrop.trans ht)]
  | cons c' r =>
    cases hs : scan c' r with
    | error e => rw [lexemes_of_error ht hs, lexemes_of_error (hdrop.trans ht) hs]
    | ok p => rw [lexemes_of_ok ht hs, lexemes_of_ok (hdrop.trans ht) hs]

theorem lexemes_blanks {blanks t : Text} (h : blanks.all isBlank = true) :
    lexemes (blanks ++ t) = lexemes t := by
  induction blanks with
  | nil => rfl
  | cons c blanks ih =>
    simp only [List.all_cons, Bool.and_eq_true] at h
    rw [List.cons_append, lexemes_blank h.1, ih h.2]

theorem lexemes_scan {c : CodePoint} {t rest : Text} {token : Token} (hc : isBlank c = false)
    (h : scan c t = .ok (token, rest)) : lexemes (c :: t) = ⟨c :: t, .ok token⟩ :: lexemes rest :=
  lexemes_of_ok (List.dropWhile_cons_of_neg (by simp [hc])) h

namespace State

variable {constants : Bool} {document : Text}

/-- A token that fits takes the reader to the next state. -/
theorem run_scan {s s' : State} {c : CodePoint} {t rest : Text} {token : Token}
    (hc : isBlank c = false) (h : scan c t = .ok (token, rest))
    (hs : step constants s token = .ok s') :
    run constants document s (lexemes (c :: t)) = run constants document s' (lexemes rest) := by
  rw [lexemes_scan hc h]
  cases s <;> simp only [run, hs]

end State

/-! ### Strings -/

theorem hexDigit_ofNat : ∀ d < 16, (CodePoint.scalar (Nat.digitChar d)).hexDigit? = some d := by
  decide

theorem hex_eq_digits : ∀ n < 0x20, Text.hex 4 n =
    [.scalar '0', .scalar '0', .scalar (Nat.digitChar (n / 16)),
      .scalar (Nat.digitChar (n % 16))] := by
  decide

/-- The escape of a control character spells it. -/
theorem hexUnit_control {n : Nat} (h : n < 0x20) :
    hexUnit? (.scalar '0') (.scalar '0') (.scalar (Nat.digitChar (n / 16)))
      (.scalar (Nat.digitChar (n % 16))) = some n := by
  have h₀ : (CodePoint.scalar '0').hexDigit? = some 0 := by decide
  have h₁ := hexDigit_ofNat (n / 16) (by omega)
  have h₂ := hexDigit_ofNat (n % 16) (by omega)
  simp only [hexUnit?, h₀, h₁, h₂, Option.bind_eq_bind, Option.bind_some, Option.pure_def]
  congr 1
  omega

theorem escapedPair_control {n low : Nat} (h : n < 0x20) : escapedPair? n low = none := by
  rw [escapedPair?, if_neg (by omega)]

/-- A code point as it is written in a string is read as that code point; something has to stand
behind it, which the closing quote does. -/
theorem stringItem_writeCodePoint (opening : Text) (c e : CodePoint) (t : Text) :
    stringItem opening (writeCodePoint c ++ e :: t) = .ok (some c, e :: t) := by
  unfold writeCodePoint
  split
  case h_8 hquote hbackslash _ _ _ _ _ =>
    split_ifs with hc
    · -- a control character without a letter of its own
      rw [hex_eq_digits _ hc]
      have hpair : ∀ o : Option Nat, o.bind (escapedPair? c.toNat) = none := by
        intro o
        cases o with
        | none => rfl
        | some low => exact escapedPair_control hc
      simp only [Text.ofChars, List.map_cons, List.map_nil, List.cons_append, List.nil_append,
        stringItem, hexUnit_control hc, hpair, CodePoint.ofNat_toNat]
      split <;> rfl
    · unfold stringItem
      split
      · contradiction
      · simp_all
      · simp_all
      · simp_all
  all_goals rfl

theorem stringRest_of_error {opening t : Text} {e : Unread} (h : stringItem opening t = .error e) :
    stringRest opening t = .error e := by
  rw [stringRest.eq_def]
  split <;> rename_i hi <;> rw [h] at hi <;> cases hi
  rfl

theorem stringRest_of_none {opening t rest : Text} (h : stringItem opening t = .ok (none, rest)) :
    stringRest opening t = .ok ([], rest) := by
  rw [stringRest.eq_def]
  split <;> rename_i hi <;> rw [h] at hi <;> cases hi
  rfl

theorem stringRest_of_some {opening t rest : Text} {c : CodePoint}
    (h : stringItem opening t = .ok (some c, rest)) :
    stringRest opening t = (stringRest opening rest).map fun (cs, rest) => (c :: cs, rest) := by
  rw [stringRest.eq_def]
  split <;> rename_i hi <;> rw [h] at hi <;> cases hi
  rfl

/-- **What is written between quotes is read as it was.** -/
theorem stringRest_writeCodePoint (opening t rest : Text) :
    stringRest opening (t.flatMap writeCodePoint ++ .scalar '"' :: rest) = .ok (t, rest) := by
  induction t with
  | nil => exact stringRest_of_none rfl
  | cons c t ih =>
    -- there is always something behind a code point: at the end it is the closing quote
    obtain ⟨e, r, he⟩ := List.exists_cons_of_ne_nil
      (List.append_ne_nil_of_right_ne_nil (t.flatMap writeCodePoint)
        (List.cons_ne_nil (.scalar '"' : CodePoint) rest))
    rw [List.flatMap_cons, List.append_assoc, he,
      stringRest_of_some (stringItem_writeCodePoint opening c e r), ← he, ih]
    rfl

theorem scan_writeString (t rest : Text) :
    scan (.scalar '"') (t.flatMap writeCodePoint ++ .scalar '"' :: rest) =
      .ok (.string t, rest) := by
  simp only [scan, stringRest_writeCodePoint, Except.map]

theorem lexemes_writeString (t rest : Text) :
    lexemes (writeString t ++ rest) =
      ⟨writeString t ++ rest, .ok (.string t)⟩ :: lexemes rest := by
  have htext : writeString t ++ rest =
      .scalar '"' :: (t.flatMap writeCodePoint ++ .scalar '"' :: rest) := by simp [writeString]
  rw [htext]
  exact lexemes_scan rfl (scan_writeString t rest)

/-! ### Numbers -/

theorem lexemes_numeral {n : Numeral} {rest : Text} (hn : n.WellFormed) (hrest : EndsNumber rest) :
    lexemes (n.text ++ rest) = ⟨n.text ++ rest, .ok (.number n)⟩ :: lexemes rest := by
  obtain ⟨c, r, htext, hc, hscan⟩ := scan_numeral hn hrest
  have hblank : isBlank (.scalar c) = false := by
    rcases hc with rfl | hc
    · rfl
    · simp only [isBlank, CodePoint.scalar.injEq, Bool.or_eq_false_iff, decide_eq_false_iff_not]
      refine ⟨⟨⟨?_, ?_⟩, ?_⟩, ?_⟩ <;> rintro rfl <;> contradiction
  rw [htext, List.cons_append]
  exact lexemes_scan hblank hscan

namespace State

variable {constants : Bool} {document : Text}

theorem run_blanks {s : State} {blanks t : Text} (h : blanks.all isBlank = true) :
    run constants document s (lexemes (blanks ++ t)) = run constants document s (lexemes t) := by
  rw [lexemes_blanks h]

theorem run_numeral {s s' : State} {n : Numeral} {rest : Text} (hn : n.WellFormed)
    (hrest : EndsNumber rest) (hs : step constants s (.number n) = .ok s') :
    run constants document s (lexemes (n.text ++ rest)) =
      run constants document s' (lexemes rest) := by
  rw [lexemes_numeral hn hrest]
  cases s <;> simp only [run, hs]

end State

end Json

end JsonApi
