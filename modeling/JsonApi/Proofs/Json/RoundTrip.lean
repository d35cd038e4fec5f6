import JsonApi.Proofs.Except
import JsonApi.Proofs.Json.Merged
import JsonApi.Proofs.Json.Written

/-!
# Reading back what was written

A written text may be respelled as long as the characters of ASCII are left alone and it is known
what the string literals are then read as (`Respells`).  Reading the text of a value from a state
that awaits one delivers the value with its texts so read and its members merged, whatever the text
goes on with, or stops at the first constant that is not admitted (`State.run_respelled`).

So the text of a value without unwritable numbers is read as that value (`ofText_write`), in every
layout whose separators are the comma and the colon with blanks behind them.
-/

namespace JsonApi

/-- The constant that a double is written as when it is not finite. -/
def Double.constant? : Double → Option Json.Constant
  | .nan => some .nan
  | .infinite false => some .infinity
  | .infinite true => some .negativeInfinity
  | .finite .. => none

theorem Double.isFinite_of_constant {x : Double} (h : x.constant? = none) : x.isFinite = true := by
  cases x with
  | nan => cases h
  | infinite negative => cases negative <;> cases h
  | finite => rfl

namespace Json

/-! ### What stands behind a value -/

theorem endsNumber_blank {c : CodePoint} {t : Text} (h : isBlank c = true) :
    EndsNumber (c :: t) := by
  simp only [isBlank, Bool.or_eq_true, decide_eq_true_eq] at h
  rw [endsNumber_cons]
  obtain ((rfl | rfl) | rfl) | rfl := h <;> exact ⟨rfl, by decide, by decide, by decide⟩

theorem endsNumber_blanks {blanks t : Text} (h : blanks.all isBlank = true) (ht : EndsNumber t) :
    EndsNumber (blanks ++ t) := by
  cases blanks with
  | nil => exact ht
  | cons c blanks =>
    simp only [List.all_cons, Bool.and_eq_true] at h
    exact endsNumber_blank h.1

theorem endsNumber_comma {t : Text} : EndsNumber (.scalar ',' :: t) :=
  endsNumber_cons.2 ⟨rfl, by decide, by decide, by decide⟩

theorem endsNumber_closeBracket {t : Text} : EndsNumber (.scalar ']' :: t) :=
  endsNumber_cons.2 ⟨rfl, by decide, by decide, by decide⟩

theorem endsNumber_closeBrace {t : Text} : EndsNumber (.scalar '}' :: t) :=
  endsNumber_cons.2 ⟨rfl, by decide, by decide, by decide⟩

theorem endsNumber_lineBreak {rest : Text} (l : Layout) (level : Nat) (h : EndsNumber rest) :
    EndsNumber (l.lineBreak level ++ rest) :=
  endsNumber_blanks (l.all_isBlank_lineBreak level) h

/-! ### What a reader takes -/

/-- Whether a reader takes a leaf, which it does not when a double is written as a constant and
constants are not admitted. -/
def Leaf.accept (constants : Bool) : Leaf → Except ReadError Unit
  | .float x =>
    match x.constant? with
    | none => .ok ()
    | some c => if constants then .ok () else .error (.constant c)
  | _ => .ok ()

/-- A leaf with a JSON form is taken. -/
theorem Leaf.accept_of_writable {x : Leaf} (h : x.unwritable? = none) (constants : Bool) :
    x.accept constants = .ok () := by
  cases x with
  | int n => rfl
  | text t => rfl
  | float x =>
    cases x with
    | finite => rfl
    | nan => cases h
    | infinite negative => cases h

/-- Where constants are not admitted, a leaf that is taken has a JSON form, unless it is an integer
past the limit. -/
theorem Leaf.writable_of_accept {x : Leaf} (hx : ∀ n, x = .int n → n.natAbs < 10 ^ digitLimit)
    (h : x.accept false = .ok ()) : x.unwritable? = none := by
  cases x with
  | int n => exact unwritable_int.2 (hx n rfl)
  | text t => rfl
  | float x =>
    cases x with
    | finite => rfl
    | nan => cases h
    | infinite negative => cases negative <;> cases h

/-- Whether a reader takes all leaves; the first that it does not take gives the error. -/
def acceptAll (constants : Bool) (xs : List Leaf) : Except ReadError Unit :=
  xs.forM (Leaf.accept constants)

section acceptAll

variable {constants : Bool} {xs ys : List Leaf}

theorem acceptAll_cons {x : Leaf} :
    acceptAll constants (x :: xs) = (x.accept constants >>= fun _ => acceptAll constants xs) := rfl

theorem acceptAll_text {t : Text} :
    acceptAll constants (.text t :: xs) = acceptAll constants xs := rfl

theorem acceptAll_append :
    acceptAll constants (xs ++ ys) =
      (acceptAll constants xs >>= fun _ => acceptAll constants ys) := by
  simp [acceptAll]

theorem acceptAll_eq_ok_iff :
    acceptAll constants xs = .ok () ↔ ∀ x ∈ xs, x.accept constants = .ok () :=
  Except.forM_eq_ok_iff

end acceptAll

/-! ### Respelled texts -/

/-- A way to spell characters that leaves those of ASCII alone, with the texts that string literals
are read as when they are written in it. -/
structure Respells (f : CodePoint → Text) (read : Text → Text) : Prop where
  ascii : ∀ c : CodePoint, c.toNat < 0x7F → f c = [c]
  literal : ∀ opening t rest,
    stringRest opening ((t.flatMap writeCodePoint).flatMap f ++ .scalar '"' :: rest) =
      .ok (read t, rest)

/-- Characters may be left as they are. -/
theorem respells_singleton : Respells (fun c => [c]) fun t => t where
  ascii _ _ := rfl
  literal opening t rest := by rw [List.flatMap_singleton', stringRest_writeCodePoint]

/-- Blanks and the printable characters of ASCII are below the delete character. -/
theorem plain_ascii : Plain fun c => decide (c.toNat < 0x7F) := by
  refine ⟨fun c hc => ?_, fun c hc => decide_eq_true (of_decide_eq_true hc).2⟩
  simp only [isBlank, Bool.or_eq_true, decide_eq_true_eq] at hc
  obtain ((rfl | rfl) | rfl) | rfl := hc <;> rfl

variable {f : CodePoint → Text} {read : Text → Text} {l : Layout}

namespace Respells

theorem flatMap_of_all (hf : Respells f read) {t : Text}
    (h : t.all (fun c => decide (c.toNat < 0x7F)) = true) : t.flatMap f = t := by
  have hchars : ∀ c ∈ t, f c = [c] :=
    fun c hc => hf.ascii c (of_decide_eq_true (List.all_eq_true.1 h c hc))
  rw [List.flatMap_congr hchars, List.flatMap_singleton']

theorem flatMap_lineBreak (hf : Respells f read) (level : Nat) :
    (l.lineBreak level).flatMap f = l.lineBreak level :=
  hf.flatMap_of_all (all_blanks plain_ascii (l.all_isBlank_lineBreak level))

theorem flatMap_itemSeparator (hf : Respells f read) (hl : l.Standard) :
    l.itemSeparator.flatMap f = l.itemSeparator :=
  hf.flatMap_of_all (hl.all_itemSeparator plain_ascii)

theorem flatMap_nameSeparator (hf : Respells f read) (hl : l.Standard) :
    l.nameSeparator.flatMap f = l.nameSeparator :=
  hf.flatMap_of_all (hl.all_nameSeparator plain_ascii)

theorem flatMap_writeString (hf : Respells f read) (t : Text) :
    (writeString t).flatMap f =
      .scalar '"' :: ((t.flatMap writeCodePoint).flatMap f ++ [.scalar '"']) := by
  have hquote := hf.ascii (.scalar '"') (by decide)
  simp [writeString, hquote]

theorem scan_literal (hf : Respells f read) (t rest : Text) :
    scan (.scalar '"') ((t.flatMap writeCodePoint).flatMap f ++ .scalar '"' :: rest) =
      .ok (.string (read t), rest) := by
  simp only [scan, hf.literal, Except.map]

variable {level : Nat} {rest : Text}

theorem endsNumber_items (hf : Respells f read) (hl : l.Standard) (vs : List Json)
    (h : EndsNumber rest) : EndsNumber ((writeItems l level vs).flatMap f ++ rest) := by
  cases vs with
  | nil => exact h
  | cons v vs =>
    obtain ⟨blanks, hitem, -⟩ := hl.item
    have hcomma := hf.ascii (.scalar ',') (by decide)
    simp only [writeItems, hitem, List.cons_append, List.flatMap_cons, hcomma]
    exact endsNumber_comma

theorem endsNumber_members (hf : Respells f read) (hl : l.Standard) (ms : List (Text × Json))
    (h : EndsNumber rest) : EndsNumber ((writeMembers l level ms).flatMap f ++ rest) := by
  cases ms with
  | nil => exact h
  | cons m ms =>
    obtain ⟨blanks, hitem, -⟩ := hl.item
    have hcomma := hf.ascii (.scalar ',') (by decide)
    simp only [writeMembers, hitem, List.cons_append, List.flatMap_cons, hcomma]
    exact endsNumber_comma

end Respells

/-! ### Reading -/

namespace State

/-- A state that awaits a value for the innermost of the open containers. -/
inductive Awaits : State → List Frame → Prop
  | value (outer : List Frame) : Awaits (.value outer) outer
  | firstItem (outer : List Frame) : Awaits (.firstItem outer) (.array [] :: outer)

variable {constants : Bool} {document rest : Text} {outer : List Frame} {s s' : State}

theorem step_of_start {token : Token} (hs : s.Awaits outer)
    (h : start constants outer token = .ok s') : step constants s token = .ok s' := by
  cases hs with
  | value => exact h
  | firstItem =>
    cases token with
    | closeBracket => cases h
    | _ => exact h

theorem run_comma (hl : l.Standard) (h : step constants s .comma = .ok s') :
    run constants document s (lexemes (l.itemSeparator ++ rest)) =
      run constants document s' (lexemes rest) := by
  obtain ⟨blanks, hitem, hblanks⟩ := hl.item
  rw [hitem, List.cons_append, run_scan rfl rfl h, run_blanks hblanks]

theorem run_colon (hl : l.Standard) (h : step constants s .colon = .ok s') :
    run constants document s (lexemes (l.nameSeparator ++ rest)) =
      run constants document s' (lexemes rest) := by
  obtain ⟨blanks, hname, hblanks⟩ := hl.name
  rw [hname, List.cons_append, run_scan rfl rfl h, run_blanks hblanks]

theorem run_lineBreak (level : Nat) :
    run constants document s (lexemes (l.lineBreak level ++ rest)) =
      run constants document s (lexemes rest) :=
  run_blanks (l.all_isBlank_lineBreak level)

theorem run_start {c : CodePoint} {t : Text} {token : Token} (hc : isBlank c = false)
    (h : scan c t = .ok (token, rest)) (hs : s.Awaits outer)
    (hstart : start constants outer token = .ok s') :
    run constants document s (lexemes (c :: t)) = run constants document s' (lexemes rest) :=
  run_scan hc h (step_of_start hs hstart)

theorem run_number {n : Numeral} {v : Json} (hn : n.WellFormed) (hv : n.value = .ok v)
    (hs : s.Awaits outer) (hrest : EndsNumber rest) :
    run constants document s (lexemes (n.text ++ rest)) =
      run constants document (deliver v outer) (lexemes rest) :=
  run_numeral hn hrest (step_of_start hs (by rw [start, hv]; rfl))

theorem run_literal (hf : Respells f read) {t : Text}
    (h : step constants s (.string (read t)) = .ok s') :
    run constants document s (lexemes ((writeString t).flatMap f ++ rest)) =
      run constants document s' (lexemes rest) := by
  rw [hf.flatMap_writeString, List.cons_append, List.append_assoc]
  exact run_scan rfl (hf.scan_literal t rest) h

/-- A constant is taken as the double that it names, or not at all. -/
theorem run_constant {x : Double} {c : Constant} (hx : x.constant? = some c) (hs : s.Awaits outer) :
    run constants document s (lexemes (writeDouble x ++ rest)) =
      ((Leaf.float x).accept constants >>= fun _ =>
        run constants document (deliver (.float x) outer) (lexemes rest)) := by
  have hword : ∃ d t, isBlank d = false ∧ writeDouble x ++ rest = d :: t ∧
      scan d t = .ok (.constant c, rest) ∧ c.toDouble = x := by
    cases x with
    | nan =>
      cases hx
      exact ⟨_, _, rfl, rfl, rfl, rfl⟩
    | infinite negative => cases negative <;> cases hx <;> exact ⟨_, _, rfl, rfl, rfl, rfl⟩
    | finite => cases hx
  obtain ⟨d, t, hd, htext, hscan, rfl⟩ := hword
  have haccept : (Leaf.float c.toDouble).accept constants =
      if constants then .ok () else .error (.constant c) := by
    simp only [Leaf.accept, hx]
  rw [htext, haccept]
  cases constants with
  | true => exact run_start hd hscan hs rfl
  | false =>
    rw [lexemes_scan hd hscan]
    cases hs <;> rfl

theorem run_double (hf : Respells f read) (x : Double) (hs : s.Awaits outer)
    (hrest : EndsNumber rest) :
    run constants document s (lexemes ((writeDouble x).flatMap f ++ rest)) =
      ((Leaf.float x).accept constants >>= fun _ =>
        run constants document (deliver (.float x) outer) (lexemes rest)) := by
  cases hx : x.constant? with
  | some c =>
    have hall : (writeDouble x).all (fun c => decide (c.toNat < 0x7F)) = true := by
      cases x with
      | nan => rfl
      | infinite negative => cases negative <;> rfl
      | finite => cases hx
    rw [hf.flatMap_of_all hall, run_constant hx hs]
  | none =>
    have hfinite := Double.isFinite_of_constant hx
    obtain ⟨n, hn, htext, hvalue⟩ := exists_numeral hfinite
    rw [hf.flatMap_of_all (all_writeDouble plain_ascii hfinite), ← htext,
      Leaf.accept_of_writable (Leaf.unwritable_float.2 hfinite)]
    exact run_number hn hvalue hs hrest

mutual

/-- **The text of a value is read as that value**, from every state that awaits one and whatever
stands behind the text, with its texts read as they were respelled. -/
theorem run_respelled (hf : Respells f read) (hl : l.Standard) (level : Nat) (v : Json)
    (hv : v.Bounded) {s : State} {outer : List Frame} {rest : Text} (hs : s.Awaits outer)
    (hrest : EndsNumber rest) :
    run constants document s (lexemes ((writeAt l level v).flatMap f ++ rest)) =
      (acceptAll constants v.leaves >>= fun _ =>
        run constants document (deliver (v.mapTexts read).merged outer) (lexemes rest)) := by
  match v with
  | .null =>
    rw [writeAt, hf.flatMap_of_all rfl]
    exact run_start rfl rfl hs rfl
  | .bool true =>
    rw [writeAt, hf.flatMap_of_all rfl]
    exact run_start rfl rfl hs rfl
  | .bool false =>
    rw [writeAt, hf.flatMap_of_all rfl]
    exact run_start rfl rfl hs rfl
  | .int n =>
    have hn := Numeral.value_ofInt (bounded_int.1 hv)
    rw [writeAt, hf.flatMap_of_all (all_ofInt plain_ascii n), ← Numeral.text_ofInt]
    exact run_number (Numeral.wellFormed_ofInt n) hn hs hrest
  | .float x =>
    rw [writeAt, run_double hf x hs hrest, leaves, acceptAll_cons, bind_assoc]
    rfl
  | .string t => exact run_literal hf (step_of_start hs rfl)
  | .array [] =>
    rw [writeAt, hf.flatMap_of_all rfl]
    calc run constants document s (lexemes (.scalar '[' :: .scalar ']' :: rest))
        = run constants document (.firstItem outer) (lexemes (.scalar ']' :: rest)) :=
          run_start rfl rfl hs rfl
      _ = run constants document (deliver (.array []) outer) (lexemes rest) :=
          run_scan rfl rfl rfl
  | .array (v :: vs) =>
    rw [bounded_array_cons] at hv
    -- a number among the items ends at a comma, at a blank or at the bracket
    have hend := endsNumber_lineBreak l level (endsNumber_closeBracket (t := rest))
    have hopen := hf.ascii (.scalar '[') (by decide)
    have hclose := hf.ascii (.scalar ']') (by decide)
    simp only [writeAt, List.flatMap_append, List.flatMap_cons, List.flatMap_nil, hopen, hclose,
      hf.flatMap_lineBreak, List.append_assoc, List.cons_append, List.nil_append]
    rw [run_start rfl rfl hs rfl, run_lineBreak,
      run_respelled hf hl (level + 1) v hv.1 (.firstItem outer) (hf.endsNumber_items hl vs hend),
      leaves, leavesOfItems, acceptAll_append]
    simp only [deliver, run_respelledItems hf hl (level + 1) level vs hv.2, bind_assoc]
    rfl
  | .object [] =>
    rw [writeAt, hf.flatMap_of_all rfl]
    calc run constants document s (lexemes (.scalar '{' :: .scalar '}' :: rest))
        = run constants document (.firstName outer) (lexemes (.scalar '}' :: rest)) :=
          run_start rfl rfl hs rfl
      _ = run constants document (deliver (.object []) outer) (lexemes rest) :=
          run_scan rfl rfl rfl
  | .object ((name, v) :: ms) =>
    rw [bounded_object_cons] at hv
    have hend := endsNumber_lineBreak l level (endsNumber_closeBrace (t := rest))
    have hopen := hf.ascii (.scalar '{') (by decide)
    have hclose := hf.ascii (.scalar '}') (by decide)
    simp only [writeAt, List.flatMap_append, List.flatMap_cons, List.flatMap_nil, hopen, hclose,
      hf.flatMap_lineBreak, hf.flatMap_nameSeparator hl, List.append_assoc, List.cons_append,
      List.nil_append]
    rw [run_start rfl rfl hs rfl, run_lineBreak, run_literal hf rfl, run_colon hl rfl,
      run_respelled hf hl (level + 1) v hv.1 (.value _) (hf.endsNumber_members hl ms hend),
      leaves, leavesOfMembers, List.cons_append, acceptAll_text, acceptAll_append]
    simp only [deliver, run_respelledMembers hf hl (level + 1) level ms hv.2, bind_assoc]
    rfl

/-- The items behind the first one are read up to the bracket that closes them. -/
theorem run_respelledItems (hf : Respells f read) (hl : l.Standard) (level closing : Nat)
    (vs : List Json) (hvs : (array vs).Bounded) {items : List Json} {outer : List Frame}
    {rest : Text} :
    run constants document (.afterItem items outer)
        (lexemes ((writeItems l level vs).flatMap f ++
          (l.lineBreak closing ++ .scalar ']' :: rest))) =
      (acceptAll constants (leavesOfItems vs) >>= fun _ => run constants document
        (deliver (.array (items.reverse ++ mergedItems (mapTextsOfItems read vs))) outer)
        (lexemes rest)) := by
  match vs with
  | [] =>
    rw [writeItems, List.flatMap_nil, List.nil_append, run_lineBreak, run_scan rfl rfl rfl,
      mapTextsOfItems, mergedItems, List.append_nil]
    rfl
  | v :: vs =>
    rw [bounded_array_cons] at hvs
    have hend := endsNumber_lineBreak l closing (endsNumber_closeBracket (t := rest))
    simp only [writeItems, List.flatMap_append, hf.flatMap_lineBreak, hf.flatMap_itemSeparator hl,
      List.append_assoc]
    rw [run_comma hl rfl, run_lineBreak,
      run_respelled hf hl level v hvs.1 (.value _) (hf.endsNumber_items hl vs hend),
      leavesOfItems, acceptAll_append]
    simp only [deliver, run_respelledItems hf hl level closing vs hvs.2, mapTextsOfItems,
      mergedItems, List.reverse_cons, List.append_assoc, List.singleton_append, bind_assoc]

/-- The members behind the first one are read up to the brace that closes them. -/
theorem run_respelledMembers (hf : Respells f read) (hl : l.Standard) (level closing : Nat)
    (ms : List (Text × Json)) (hms : (object ms).Bounded) {members : List (Text × Json)}
    {outer : List Frame} {rest : Text} :
    run constants document (.afterMember members outer)
        (lexemes ((writeMembers l level ms).flatMap f ++
          (l.lineBreak closing ++ .scalar '}' :: rest))) =
      (acceptAll constants (leavesOfMembers ms) >>= fun _ => run constants document
        (deliver (.object (Members.ofPairs
          (members.reverse ++ mergedMembers (mapTextsOfMembers read ms)))) outer)
        (lexemes rest)) := by
  match ms with
  | [] =>
    rw [writeMembers, List.flatMap_nil, List.nil_append, run_lineBreak, run_scan rfl rfl rfl,
      mapTextsOfMembers, mergedMembers, List.append_nil]
    rfl
  | (name, v) :: ms =>
    rw [bounded_object_cons] at hms
    have hend := endsNumber_lineBreak l closing (endsNumber_closeBrace (t := rest))
    simp only [writeMembers, List.flatMap_append, hf.flatMap_lineBreak,
      hf.flatMap_itemSeparator hl, hf.flatMap_nameSeparator hl, List.append_assoc]
    rw [run_comma hl rfl, run_lineBreak, run_literal hf rfl, run_colon hl rfl,
      run_respelled hf hl level v hms.1 (.value _) (hf.endsNumber_members hl ms hend),
      leavesOfMembers, List.cons_append, acceptAll_text, acceptAll_append]
    simp only [deliver, run_respelledMembers hf hl level closing ms hms.2, mapTextsOfMembers,
      mergedMembers, List.reverse_cons, List.append_assoc, List.singleton_append, bind_assoc]

end

end State

/-- **A respelled text is read** as the value that was written, with its texts read as they were
respelled, unless a constant is met that is not admitted. -/
theorem ofText_respelled (constants : Bool) (hf : Respells f read) (hl : l.Standard) {v : Json}
    (hv : v.Bounded) :
    ofText constants ((write l v).flatMap f) =
      (acceptAll constants v.leaves).map fun _ => (v.mapTexts read).merged := by
  have hnil : lexemes [] = [] := lexemes_of_nil rfl
  rw [ofText, write, ← List.append_nil ((writeAt l 0 v).flatMap f),
    State.run_respelled hf hl 0 v hv (.value []) endsNumber_nil, hnil]
  cases acceptAll constants v.leaves <;> rfl

/-- **Reading undoes writing**: the text of a value whose numbers all have a JSON form is read as
that value, with the members of one name merged. -/
theorem ofText_write (constants : Bool) (hl : l.Standard) {v : Json} (hv : v.Writable) :
    ofText constants (write l v) = .ok v.merged := by
  have haccept : acceptAll constants v.leaves = .ok () :=
    acceptAll_eq_ok_iff.2 fun x hx => Leaf.accept_of_writable (hv x hx) constants
  have hread := ofText_respelled constants respells_singleton hl (bounded_of_writable hv)
  rwa [List.flatMap_singleton', haccept, mapTexts_id] at hread

end Json

end JsonApi
