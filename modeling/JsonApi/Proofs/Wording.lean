import JsonApi.Negotiation
import JsonApi.Proofs.Encoding.Utf8
import JsonApi.Proofs.Except
import JsonApi.Proofs.Text
import JsonApi.Proofs.Text.Case
import JsonApi.Violation

/-!
# The wording of errors

Messages name bytes, characters and numbers in digits, so they hold no halves of surrogate pairs
(`CodingError.isScalar_message`).  What they quote as it stands is the exception: a header, which
holds none either, the media type of the settings, the method and the name of a relationship
(`Rule.isScalar_message`).  Pointers hold what their tokens hold (`Pointer.isScalar_text`).
-/

namespace JsonApi

/-! ### Texts made of characters -/

namespace Text

theorem isScalar_nil : isScalar [] = true := rfl

theorem isScalar_singleton (c : CodePoint) : isScalar [c] = ! c.isSurrogate :=
  Bool.and_true _

@[simp] theorem isScalar_ofString (s : String) : isScalar (ofString s) = true :=
  isScalar_ofChars s.toList

@[simp] theorem isScalar_ofNat (n : Nat) : (ofNat n).isScalar = true :=
  isScalar_ofChars _

@[simp] theorem isScalar_ofInt (n : Int) : (ofInt n).isScalar = true := by
  cases n with
  | ofNat n => exact isScalar_ofNat n
  | negSucc n => exact isScalar_ofNat (n + 1)

@[simp] theorem isScalar_hex (width n : Nat) : (hex width n).isScalar = true :=
  isScalar_ofChars _

theorem isScalar_flatMap (f : CodePoint → Text) (t : Text) :
    isScalar (t.flatMap f) = t.all fun c => (f c).isScalar :=
  List.all_flatMap

theorem isScalar_replace {old : CodePoint} {new : Text} (hold : old.isSurrogate = false)
    (hnew : new.isScalar = true) (t : Text) : (t.replace old new).isScalar = t.isScalar := by
  rw [replace, isScalar_flatMap, isScalar]
  refine List.all_congr rfl fun c => ?_
  split_ifs with hc
  · rw [hnew, hc, hold, Bool.not_false]
  · exact isScalar_singleton c

namespace Case

/-- The upper case of a scalar value is made of scalar values. -/
theorem isScalar_mapCode_upper {n : Nat} (hn : n < 0xD800 ∨ 0xE000 ≤ n) :
    (mapCode upperShifts upperSequences n).isScalar = true := by
  -- no shift leads into the halves of surrogate pairs
  have hshifts : ∀ s ∈ upperShifts,
      (s.last : Int) + s.amount < 0xD800 ∨ 0xE000 ≤ (s.first : Int) + s.amount := by decide +kernel
  have hsequences : ∀ p ∈ upperSequences, ∀ m ∈ p.2, m < 0xD800 ∨ 0xE000 ≤ m := by decide +kernel
  refine List.all_eq_true.2 (forall_mem_mapCode (fun e he m hm => ?_) (fun s hs _ _ => ?_) ?_)
  · rw [Utf8.isSurrogate_ofNat (hsequences e he m hm), Bool.not_false]
  · have := hshifts s hs
    rw [Utf8.isSurrogate_ofNat (by omega), Bool.not_false]
  · rw [Utf8.isSurrogate_ofNat hn, Bool.not_false]

end Case

theorem isScalar_upper (t : Text) : t.upper.isScalar = t.isScalar := by
  rw [upper, isScalar_flatMap, isScalar]
  refine List.all_congr rfl fun c => ?_
  cases c with
  | surrogate offset => rfl
  | scalar c =>
    dsimp only
    split_ifs
    · rfl
    · exact Case.isScalar_mapCode_upper ((Utf8.toNat_of_scalar c).imp_right And.left)

end Text

/-! ### Errors of codings -/

@[simp] theorem CodePoint.isScalar_escape (c : CodePoint) : c.escape.isScalar = true := by
  unfold escape
  dsimp only
  split_ifs <;> simp

@[simp] theorem Encoding.isScalar_name (e : Encoding) : e.name.isScalar = true := by
  rcases e with _ | _ | _ | (_ | _) | (_ | _) <;> exact Text.isScalar_ofString _

@[simp] theorem Encoding.Fault.isScalar_reason (f : Fault) : f.reason.isScalar = true := by
  cases f <;> exact Text.isScalar_ofString _

theorem DecodingError.isScalar_message (e : DecodingError) : e.message.isScalar = true := by
  unfold message
  dsimp only
  split <;> simp

theorem EncodingError.isScalar_message (e : EncodingError) : e.message.isScalar = true := by
  unfold message
  dsimp only
  split <;> split <;> simp

@[simp] theorem Decimal.isScalar_text (d : Decimal) : d.text.isScalar = true := by
  unfold text
  dsimp only
  split
  · split
    · exact Text.isScalar_ofChars _
    · exact Text.isScalar_ofChars _
    · split <;> exact Text.isScalar_ofChars _
  · exact Text.isScalar_ofChars _

theorem Double.isScalar_text {notANumber infinity : Text} (hnan : notANumber.isScalar = true)
    (hinfinity : infinity.isScalar = true) (x : Double) :
    (x.text notANumber infinity).isScalar = true := by
  have hsign : ∀ b : Bool, (if b then ("-" : Text) else []).isScalar = true := by decide
  cases x with
  | nan => exact hnan
  | infinite negative => rw [text, Text.isScalar_append, hsign, hinfinity, Bool.and_self]
  | finite negative units bounded =>
    rw [text, Text.isScalar_append, hsign, Bool.true_and]
    split <;> simp

namespace Json

@[simp] theorem Flaw.isScalar_reason (f : Flaw) : f.reason.isScalar = true := by
  cases f <;> exact Text.isScalar_ofString _

@[simp] theorem Constant.isScalar_text (c : Constant) : c.text.isScalar = true := by
  cases c <;> exact Text.isScalar_ofString _

theorem ReadError.isScalar_message (e : ReadError) : e.message.isScalar = true := by
  cases e <;> simp [message]

theorem WriteError.isScalar_message (e : WriteError) : e.message.isScalar = true := by
  rcases e with (_ | x) | _
  · exact Text.isScalar_ofString _
  · rw [message, Text.isScalar_append, Text.isScalar_ofString, Bool.true_and]
    exact Double.isScalar_text (Text.isScalar_ofString _) (Text.isScalar_ofString _) x
  · simp [message]

end Json

theorem CodingError.isScalar_message (e : CodingError) : e.message.isScalar = true := by
  cases e with
  | undecodable e => exact e.isScalar_message
  | unreadable e => exact e.isScalar_message
  | unwritable e => exact e.isScalar_message
  | unencodable e => exact e.isScalar_message

/-! ### Headers -/

namespace Headers

variable {h : Headers}

theorem isScalar_latin1 (bs : Bytes) : (Latin1.decode bs).isScalar = true := by
  rw [Latin1.decode, Text.isScalar, List.all_map, List.all_eq_true]
  intro b _
  have := b.toNat_lt
  rw [Function.comp_apply, Utf8.isSurrogate_ofNat (by omega), Bool.not_false]

theorem isScalar_decode (h : Headers) (bs : Bytes) : (h.decode bs).isScalar = true := by
  unfold decode
  split
  · exact Utf8.isScalar_decodeLenient bs
  · exact isScalar_latin1 bs

/-- However the fields are read, the values under a name hold no halves of surrogate pairs. -/
theorem isScalar_get? {name t : Text} (ht : h.get? name = some t) : t.isScalar = true := by
  unfold get? at ht
  split at ht
  · cases ht
  · obtain rfl := Option.some.inj ht
    refine List.all_eq_true.2 fun c hc => ?_
    rcases Text.mem_join hc with hc | ⟨t, ht, hc⟩
    · exact List.all_eq_true.1 (Text.isScalar_ofString ", ") c hc
    · obtain ⟨f, -, rfl⟩ := List.mem_map.1 ht
      exact List.all_eq_true.1 (h.isScalar_decode f.value) c hc

end Headers

namespace Negotiation

variable {s : Settings}

/-- The content type that a refusal quotes. -/
def Refusal.quoted : Refusal → Text
  | .missing => []
  | .mediaType contentType => contentType
  | .parameters contentType => contentType

theorem Refusal.isScalar_message {expected : Text} (hexpected : expected.isScalar = true)
    (r : Refusal) : (r.message expected).isScalar = r.quoted.isScalar := by
  cases r <;> simp [message, quoted, hexpected, Text.isScalar_nil]

theorem failsOnly_checkContentType (s : Settings) {contentType : Text}
    (h : contentType.isScalar = true) :
    (checkContentType s contentType).FailsOnly (·.quoted.isScalar = true) := by
  unfold checkContentType
  dsimp only
  split_ifs
  · exact Except.failsOnly_error_iff.2 rfl
  · exact Except.failsOnly_error_iff.2 h
  · exact Except.failsOnly_error_iff.2 h
  · exact Except.failsOnly_ok _

theorem failsOnly_check (s : Settings) (h : Headers) :
    (check s h).FailsOnly (·.quoted.isScalar = true) := by
  refine failsOnly_checkContentType s ?_
  cases ht : h.get? "content-type" with
  | none => rfl
  | some t => exact Headers.isScalar_get? ht

end Negotiation

/-! ### Violations -/

/-- What the wording for a broken rule quotes. -/
def Rule.quoted : Rule → Text
  | .presentId method => method
  | .relationship name => name
  | _ => []

theorem IdentifierMember.isScalar_name (m : IdentifierMember) : m.name.isScalar = true := by
  cases m <;> exact Text.isScalar_ofString _

theorem Rule.isScalar_message (r : Rule) : r.message.isScalar = r.quoted.isScalar := by
  cases r <;> simp [message, quoted, Text.isScalar_upper, IdentifierMember.isScalar_name,
    Text.isScalar_nil]

namespace Pointer

theorem isScalar_escape (token : Text) : (escape token).isScalar = token.isScalar := by
  rw [escape, Text.isScalar_replace rfl (Text.isScalar_ofString _),
    Text.isScalar_replace rfl (Text.isScalar_ofString _)]

theorem isScalar_text (p : Pointer) : p.text.isScalar = p.all Text.isScalar := by
  rw [text, Text.isScalar, List.all_flatMap]
  refine List.all_congr rfl fun token => ?_
  exact isScalar_escape token

/-- A token in a text without halves of surrogate pairs holds none. -/
theorem isScalar_of_mem {p : Pointer} {token : Text} (h : p.text.isScalar = true)
    (htoken : token ∈ p) : token.isScalar = true := by
  rw [isScalar_text] at h
  exact List.all_eq_true.1 h token htoken

end Pointer

end JsonApi
