import JsonApi.Proofs.Encoding.Utf8
import JsonApi.Proofs.Json.Front
import JsonApi.Proofs.Json.RoundTrip

/-!
# Layout does not matter

The dense form of a text that is read holds the same value (`ofText_dense`), so texts that differ
in the blanks between tokens only are read alike.  What is written compactly is dense already
(`solid_write`).
-/

namespace JsonApi

namespace Json

namespace State

variable {constants : Bool} {document : Text} {s s' : State} {v w : Json} {t : Text}
  {outer : List Frame}

/-! ### Runs that end well -/

/-- Tokens lead from a state to the end of the value `v`: blanks may stand before each of them and
behind the last one, and each is scanned from its own solid text wherever that may stand. -/
inductive Accepts (constants : Bool) (v : Json) : State → Text → Prop
  | complete {blanks : Text} (hblanks : blanks.all isBlank = true) :
      Accepts constants v (.complete v) blanks
  | token {s s' : State} {blanks r rest : Text} {c : CodePoint} {token : Token}
      (hblanks : blanks.all isBlank = true) (hsolid : Solid .outside (c :: r) .outside)
      (hscan : ∀ x, ((∃ n, token = .number n) → EndsNumber x) →
        scan c (r ++ x) = .ok (token, x))
      (hstep : step constants s token = .ok s') (hrest : Accepts constants v s' rest) :
      Accepts constants v s (blanks ++ (c :: r ++ rest))

theorem run_unread_ne_ok {front : Text} {unread : Unread} {ls : List Lexeme} :
    run constants document s (⟨front, .error unread⟩ :: ls) ≠ .ok v := by
  cases unread with
  | unknown => simp [run]
  | flawed f place => cases hs : s.takesString <;> simp [run, hs]

theorem exists_of_run_cons {front : Text} {token : Token} {ls : List Lexeme}
    (h : run constants document s (⟨front, .ok token⟩ :: ls) = .ok v) :
    ∃ s', step constants s token = .ok s' ∧ run constants document s' ls = .ok v := by
  rw [run] at h
  split at h
  · exact ⟨_, ‹_›, h⟩
  all_goals cases h

theorem accepts_of_run (h : run constants document s (lexemes t) = .ok v) :
    Accepts constants v s t := by
  fun_induction lexemes t generalizing s with
  | case1 t hdrop =>
    have ht : t.all isBlank = true := Text.dropWhile_eq_nil_iff.1 hdrop
    cases s with
    | complete w =>
      cases h
      exact .complete ht
    | _ => cases h
  | case2 t c r hdrop e hs => exact absurd h run_unread_ne_ok
  | case3 t c r hdrop token rest hs hlt ih =>
    obtain ⟨s', hstep, hrun⟩ := exists_of_run_cons h
    obtain ⟨r, rfl, hsolid, hscan⟩ := exists_front hs
    have ht : t.takeWhile isBlank ++ (c :: r ++ rest) = t := by
      rw [List.cons_append, ← hdrop, List.takeWhile_append_dropWhile]
    exact ht ▸ .token List.all_takeWhile hsolid hscan hstep (ih hrun)

theorem exists_of_step_number {n : Numeral} (h : step constants s (.number n) = .ok s') :
    ∃ w outer, s' = deliver w outer := by
  cases s with
  | value outer =>
    obtain ⟨w, -, rfl⟩ := Except.map_eq_ok_iff.1 h
    exact ⟨w, outer, rfl⟩
  | firstItem outer =>
    obtain ⟨w, -, rfl⟩ := Except.map_eq_ok_iff.1 h
    exact ⟨w, _, rfl⟩
  | _ => cases h

theorem step_deliver_number (n : Numeral) :
    step constants (deliver w outer) (.number n) = .error .misplaced := by
  unfold deliver
  split <;> rfl

/-- Behind a value, nothing fits that a number could go on with. -/
theorem endsNumber_of_accepts (h : Accepts constants v (deliver w outer) t) : EndsNumber t := by
  generalize hs : deliver w outer = s at h
  cases h with
  | complete hblanks =>
    rw [← List.append_nil t]
    exact endsNumber_blanks hblanks endsNumber_nil
  | @token _ s' blanks r rest c token hblanks hsolid hscan hstep hrest =>
    have hread : scan c (r ++ []) = .ok (token, []) := hscan [] fun _ => endsNumber_nil
    refine endsNumber_blanks hblanks (endsNumber_cons.2 ⟨?_, ?_, ?_, ?_⟩)
    · cases c with
      | surrogate => rfl
      | scalar d =>
        by_contra hd
        rw [CodePoint.isDigit, Bool.not_eq_false] at hd
        obtain ⟨-, -, -, -, -, ⟨n, rfl⟩, -⟩ := exists_number ((scan_of_isDigit hd).symm.trans hread)
        rw [← hs, step_deliver_number] at hstep
        cases hstep
    all_goals
      rintro rfl
      cases hread

theorem isBlank_of_solid {c : CodePoint} {r : Text} {q : Position}
    (h : Solid .outside (c :: r) q) : isBlank c = false := by
  cases h with
  | cons _ hvisible _ =>
    by_contra hc
    have hinvisible := isVisible_of_isBlank (eq_true_of_ne_false hc)
    exact absurd ((hvisible rfl).symm.trans hinvisible) (by decide)

/-- **A run ends well** exactly on the texts that are accepted. -/
theorem run_eq_ok_iff :
    run constants document s (lexemes t) = .ok v ↔ Accepts constants v s t := by
  refine ⟨accepts_of_run, fun h => ?_⟩
  induction h with
  | @complete blanks hblanks =>
    rw [← List.append_nil blanks, lexemes_blanks hblanks, lexemes_of_nil rfl]
    rfl
  | @token s s' blanks r rest c token hblanks hsolid hscan hstep hrest ih =>
    have hend : (∃ n, token = .number n) → EndsNumber rest := by
      rintro ⟨n, rfl⟩
      obtain ⟨w, outer, rfl⟩ := exists_of_step_number hstep
      exact endsNumber_of_accepts hrest
    rw [lexemes_blanks hblanks, List.cons_append,
      run_scan (isBlank_of_solid hsolid) (hscan rest hend) hstep, ih]

/-! ### What does not matter -/

/-- A token that is taken where constants are not admitted is taken where they are. -/
theorem step_of_step_false {token : Token} (h : step false s token = .ok s') :
    step constants s token = .ok s' := by
  cases token with
  | constant c => cases s <;> cases h
  | _ => cases s <;> exact h

theorem Accepts.of_false (h : Accepts false v s t) (constants : Bool) :
    Accepts constants v s t := by
  induction h with
  | complete hblanks => exact .complete hblanks
  | token hblanks hsolid hscan hstep _ ih =>
    exact .token hblanks hsolid hscan (step_of_step_false hstep) ih

theorem Accepts.dense (h : Accepts constants v s t) : Accepts constants v s (dense t) := by
  induction h with
  | @complete blanks hblanks =>
    have hdense : Json.dense blanks = [] := by
      rw [Json.dense, ← List.append_nil blanks, denseFrom_blanks hblanks]
      rfl
    rw [hdense]
    exact .complete rfl
  | @token s s' blanks r rest c token hblanks hsolid hscan hstep _ ih =>
    have hdense : Json.dense (blanks ++ (c :: r ++ rest)) = c :: r ++ Json.dense rest := by
      rw [Json.dense, denseFrom_blanks hblanks, hsolid.denseFrom_append]
      rfl
    have hrest : Accepts constants v s ([] ++ (c :: r ++ Json.dense rest)) :=
      .token rfl hsolid hscan hstep ih
    rwa [hdense]

theorem blank_range {c : CodePoint} (h : isBlank c = true) : c.toNat ≠ 0 ∧ c.toNat < 0x80 := by
  simp only [isBlank, Bool.or_eq_true, decide_eq_true_eq] at h
  obtain ((rfl | rfl) | rfl) | rfl := h <;> decide

/-- An accepted text holds no null characters. -/
theorem Accepts.ne_zero (h : Accepts constants v s t) : ∀ c ∈ t, c.toNat ≠ 0 := by
  induction h with
  | complete hblanks => exact fun c hc => (blank_range (List.all_eq_true.1 hblanks c hc)).1
  | token hblanks hsolid _ _ _ ih =>
    have hblank := fun c hc => (blank_range (List.all_eq_true.1 hblanks c hc)).1
    exact List.forall_mem_append.2 ⟨hblank, List.forall_mem_append.2 ⟨hsolid.ne_zero, ih⟩⟩

/-- An accepted text starts with a character of ASCII. -/
theorem Accepts.head_lt (h : Accepts constants v s t) : ∀ c ∈ t.head?, c.toNat < 0x80 := by
  cases h with
  | complete hblanks =>
    exact fun c hc => (blank_range (List.all_eq_true.1 hblanks c (List.mem_of_mem_head? hc))).2
  | @token _ _ blanks r rest d _ hblanks hsolid =>
    cases blanks with
    | nil =>
      rintro c ⟨⟩
      cases hsolid with
      | cons _ hvisible _ =>
        have := of_decide_eq_true (hvisible rfl)
        omega
    | cons b blanks =>
      rintro c ⟨⟩
      exact (blank_range (List.all_eq_true.1 hblanks b List.mem_cons_self)).2

end State

variable {constants : Bool} {t : Text} {v : Json}

theorem ofText_eq_ok_iff :
    ofText constants t = .ok v ↔ State.Accepts constants v (.value []) t := State.run_eq_ok_iff

/-- **The dense form of a text that is read** is read as the same value. -/
theorem ofText_dense (h : ofText constants t = .ok v) : ofText constants (dense t) = .ok v :=
  ofText_eq_ok_iff.2 (ofText_eq_ok_iff.1 h).dense

theorem ofText_of_false (h : ofText false t = .ok v) (constants : Bool) :
    ofText constants t = .ok v :=
  ofText_eq_ok_iff.2 ((ofText_eq_ok_iff.1 h).of_false constants)

/-- **The UTF-8 form of a text that is read** is read as the same text. -/
theorem documentText_encodeScalars (h : ofText constants t = .ok v) (hscalar : t.isScalar = true) :
    Encoding.documentText (Utf8.encodeScalars t) = .ok t := by
  have haccepts := ofText_eq_ok_iff.1 h
  exact Encoding.documentText_encodeScalars hscalar haccepts.ne_zero haccepts.head_lt

/-! ### What is written compactly -/

theorem solid_of_scan {c : CodePoint} {token : Token} (h : scan c t = .ok (token, [])) :
    Solid .outside (c :: t) .outside := by
  obtain ⟨r, rfl, hr, -⟩ := exists_front h
  rwa [List.append_nil]

theorem solid_numeral {n : Numeral} (hn : n.WellFormed) : Solid .outside n.text .outside := by
  obtain ⟨c, r, htext, -, hscan⟩ := scan_numeral hn endsNumber_nil
  rw [htext]
  exact solid_of_scan (List.append_nil r ▸ hscan)

theorem solid_writeString (t : Text) : Solid .outside (writeString t) .outside :=
  solid_of_scan (scan_writeString t [])

theorem solid_itemSeparator : Solid .outside Layout.compact.itemSeparator .outside :=
  .ofChars rfl

theorem solid_nameSeparator : Solid .outside Layout.compact.nameSeparator .outside :=
  .ofChars rfl

mutual

/-- **A value that is written compactly** has nothing but visible characters outside its string
literals. -/
theorem solid_writeAt (level : Nat) (v : Json) (hv : v.Writable) :
    Solid .outside (writeAt .compact level v) .outside := by
  match v with
  | .null => exact .ofChars rfl
  | .bool true => exact .ofChars rfl
  | .bool false => exact .ofChars rfl
  | .int n =>
    rw [writeAt, ← Numeral.text_ofInt]
    exact solid_numeral (Numeral.wellFormed_ofInt n)
  | .float x =>
    obtain ⟨n, hn, htext, -⟩ := exists_numeral (writable_float.1 hv)
    rw [writeAt, ← htext]
    exact solid_numeral hn
  | .string t => exact solid_writeString t
  | .array [] => exact .ofChars rfl
  | .array (v :: vs) =>
    rw [writable_array_cons] at hv
    have hitems := (solid_writeAt (level + 1) v hv.1).append (solid_writeItems (level + 1) vs hv.2)
    have hclose : Solid .outside [.scalar ']'] .outside := .outside rfl (.nil _)
    simp only [writeAt, Layout.lineBreak_compact, List.append_nil, List.cons_append]
    exact .outside rfl (hitems.append hclose)
  | .object [] => exact .ofChars rfl
  | .object ((name, v) :: ms) =>
    rw [writable_object_cons] at hv
    have hname := (solid_writeString name).append solid_nameSeparator
    have hmembers := (hname.append (solid_writeAt (level + 1) v hv.1)).append
      (solid_writeMembers (level + 1) ms hv.2)
    have hclose : Solid .outside [.scalar '\x7d'] .outside := .outside rfl (.nil _)
    simp only [writeAt, Layout.lineBreak_compact, List.append_nil, List.cons_append]
    exact .outside rfl (hmembers.append hclose)

theorem solid_writeItems (level : Nat) (vs : List Json) (hvs : (array vs).Writable) :
    Solid .outside (writeItems .compact level vs) .outside := by
  match vs with
  | [] => exact .nil _
  | v :: vs =>
    rw [writable_array_cons] at hvs
    have hitems := (solid_writeAt level v hvs.1).append (solid_writeItems level vs hvs.2)
    rw [writeItems, Layout.lineBreak_compact, List.append_nil, List.append_assoc]
    exact solid_itemSeparator.append hitems

theorem solid_writeMembers (level : Nat) (ms : List (Text × Json)) (hms : (object ms).Writable) :
    Solid .outside (writeMembers .compact level ms) .outside := by
  match ms with
  | [] => exact .nil _
  | (name, v) :: ms =>
    rw [writable_object_cons] at hms
    have hname := (solid_itemSeparator.append (solid_writeString name)).append solid_nameSeparator
    rw [writeMembers, Layout.lineBreak_compact, List.append_nil]
    exact (hname.append (solid_writeAt level v hms.1)).append (solid_writeMembers level ms hms.2)

end

end Json

end JsonApi
