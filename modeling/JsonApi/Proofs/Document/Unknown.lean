import JsonApi.Proofs.Document.Items
import Mathlib.Logic.Relation

/-!
# Members that the reader does not know

The reader looks for a few names at each level of a document.  An edit adds, removes or changes a
member of another name, or puts members in another order; it does so in the document itself or
further down, where the reader goes as well.  One edit does not change what is read at its level
(`Level.agree_of_edit`), and so no number of edits changes what comes of a document
(`Document.unknown_members_skipped`).
-/

namespace JsonApi

/-! ### Members by name -/

namespace Members

variable {α β : Type} {name n : Text} {v w : α} {front back ms ms' : List (Text × α)}

theorem get?_append_cons_of_ne (h : name ≠ n) :
    get? n (front ++ (name, v) :: back) = get? n (front ++ back) := by
  induction front with
  | nil => exact if_neg h
  | cons m front ih => rw [List.cons_append, List.cons_append, get?, get?, ih]

/-- What does not tell two values apart does not tell the members that hold them apart. -/
theorem apply_get?_append_cons {f : Option α → β} (h : f (some v) = f (some w)) (name n : Text)
    (front back : List (Text × α)) :
    f (get? n (front ++ (name, v) :: back)) = f (get? n (front ++ (name, w) :: back)) := by
  induction front with
  | nil =>
    rw [List.nil_append, List.nil_append, get?, get?]
    split_ifs
    · exact h
    · rfl
  | cons m front ih =>
    rw [List.cons_append, List.cons_append, get?, get?]
    split_ifs
    · rfl
    · exact ih

/-- Where no name is repeated, the order of members does not matter. -/
theorem get?_perm (hnames : (names ms).Nodup) (h : ms.Perm ms') (n : Text) :
    get? n ms = get? n ms' := by
  have hnames' : (names ms').Nodup := (h.map Prod.fst).nodup_iff.1 hnames
  refine Option.ext fun v => ⟨fun hv => ?_, fun hv => ?_⟩
  · exact get?_of_mem hnames' (h.mem_iff.1 (mem_of_get? hv))
  · exact get?_of_mem hnames (h.mem_iff.2 (mem_of_get? hv))

end Members

/-! ### Edits -/

/-- The objects of a document into which the reader looks. -/
inductive Level
  | document
  | resource
  | relationships
  | relationship
  | identifier

namespace Level

/-- The names that are known at a level.  Among relationships every name is: it is the name of a
relationship. -/
def Knows : Level → Text → Prop
  | .document, name => name = "data"
  | .resource, name => name ∈ (["type", "id", "attributes", "relationships"] : List Text)
  | .relationships, _ => True
  | .relationship, name => name = "data"
  | .identifier, name => name ∈ (["type", "id"] : List Text)

instance : (level : Level) → (name : Text) → Decidable (level.Knows name)
  | .document, name => inferInstanceAs (Decidable (name = "data"))
  | .resource, name =>
    inferInstanceAs (Decidable (name ∈ (["type", "id", "attributes", "relationships"] : List Text)))
  | .relationships, _ => inferInstanceAs (Decidable True)
  | .relationship, name => inferInstanceAs (Decidable (name = "data"))
  | .identifier, name => inferInstanceAs (Decidable (name ∈ (["type", "id"] : List Text)))

/-- Under which name an object of one level holds an object, or an array of objects, of another
one. -/
inductive Holds : Level → Text → Level → Prop
  | data : Holds .document "data" .resource
  | relationships : Holds .resource "relationships" .relationships
  | relationship (name : Text) : Holds .relationships name .relationship
  | linkage : Holds .relationship "data" .identifier

/-- The levels whose objects may stand in an array. -/
inductive Listed : Level → Prop
  | resource : Listed .resource
  | identifier : Listed .identifier

end Level

/-- One edit of a value at a level, in a place that the reader does not look at. -/
inductive Edit : Level → Json → Json → Prop
  | add {level : Level} (front : Members) {back : Members} {m : Text × Json}
      (h : ¬ level.Knows m.1) :
      Edit level (.object (front ++ back)) (.object (front ++ m :: back))
  | remove {level : Level} (front : Members) {back : Members} {m : Text × Json}
      (h : ¬ level.Knows m.1) :
      Edit level (.object (front ++ m :: back)) (.object (front ++ back))
  | change {level : Level} (front : Members) {back : Members} {name : Text} {v w : Json}
      (h : ¬ level.Knows name) :
      Edit level (.object (front ++ (name, v) :: back)) (.object (front ++ (name, w) :: back))
  | reorder {level : Level} {ms ms' : Members} (hlevel : level ≠ .relationships)
      (hnames : (Members.names ms).Nodup) (h : ms.Perm ms') : Edit level (.object ms) (.object ms')
  | inMember {level lower : Level} (front : Members) {back : Members} {name : Text} {v w : Json}
      (hlower : level.Holds name lower) (h : Edit lower v w) :
      Edit level (.object (front ++ (name, v) :: back)) (.object (front ++ (name, w) :: back))
  | inItem {level : Level} (front : List Json) {back : List Json} {v w : Json}
      (hlevel : level.Listed) (h : Edit level v w) :
      Edit level (.array (front ++ v :: back)) (.array (front ++ w :: back))

/-! ### What is read at a level -/

/-- What a document holds, read from the primary data. -/
def Document.ofJson {α : Type} (parse : Json → Except Rejection α) (document : Json) :
    Except Failure α := do
  let data ← (primary document).mapError fun v => .api v.error
  (parse data).mapError Rejection.failure

/-- Two values are the same to those who read them at a level. -/
def Level.Agree : Level → Json → Json → Prop
  | .document, v, w => ∀ method,
      Document.ofJson (Resource.ofPrimary method) v =
        Document.ofJson (Resource.ofPrimary method) w ∧
      Document.ofJson (Resource.listOfPrimary method) v =
        Document.ofJson (Resource.listOfPrimary method) w
  | .resource, v, w => ∀ method, Resource.ofPrimary method v = Resource.ofPrimary method w ∧
      Resource.listOfPrimary method v = Resource.listOfPrimary method w
  | .relationships, v, w => Relationships.ofPrimary v = Relationships.ofPrimary w
  | .relationship, v, w => ∀ name, Relationship.ofPrimary name v = Relationship.ofPrimary name w
  | .identifier, v, w => ∀ place, Identifier.ofPrimary place v = Identifier.ofPrimary place w ∧
      Linkage.ofPrimary place v = Linkage.ofPrimary place w

section

variable {level lower : Level} {v w : Json} {name : Text} {front back ms ms' : Members}

theorem Document.ofBytes_eq_ofJson {α : Type} {parse : Json → Except Rejection α} {bs : Bytes}
    {d : Json} (h : Json.ofBytes bs = .ok d) : ofBytes parse bs = ofJson parse d := by
  rw [ofBytes, h]
  rfl

theorem Document.ofJson_object {α : Type} (parse : Json → Except Rejection α) (ms : Members) :
    ofJson parse (.object ms) = match Members.get? "data" ms with
      | some v => (parse v).mapError Rejection.failure
      | none => .error (.api (Violation.error ⟨.data, Violation.dataPlace⟩)) := by
  rw [ofJson, primary]
  cases Members.get? "data" ms <;> rfl

/-- Of a document only the primary data are read. -/
theorem Document.ofJson_append_cons {α : Type} {parse : Json → Except Rejection α}
    (h : parse v = parse w) :
    ofJson parse (.object (front ++ (("data" : Text), v) :: back)) =
      ofJson parse (.object (front ++ (("data" : Text), w) :: back)) := by
  rw [ofJson_object, ofJson_object]
  exact Members.apply_get?_append_cons (f := fun data => match data with
    | some v => (parse v).mapError Rejection.failure
    | none => .error (.api (Violation.error ⟨.data, Violation.dataPlace⟩)))
    (congrArg (Except.mapError Rejection.failure) h) "data" "data" front back

/-- The identifiers of an array are read item by item. -/
theorem Linkage.itemsOfPrimary_append_cons
    (h : ∀ place, Identifier.ofPrimary place v = Identifier.ofPrimary place w) (place : Pointer)
    (n : Nat) (front back : List Json) :
    itemsOfPrimary place n (front ++ v :: back) = itemsOfPrimary place n (front ++ w :: back) := by
  induction front generalizing n with
  | nil => rw [List.nil_append, List.nil_append, itemsOfPrimary, itemsOfPrimary, h]
  | cons u front ih =>
    rw [List.cons_append, List.cons_append, itemsOfPrimary, itemsOfPrimary, ih]

namespace Level

/-- Objects that hold the same under the known names are the same to their readers. -/
theorem agree_of_get (hlevel : level ≠ .relationships)
    (h : ∀ n, level.Knows n → Members.get? n ms = Members.get? n ms') :
    level.Agree (.object ms) (.object ms') := by
  cases level with
  | document =>
    intro method
    simp only [Document.ofJson_object, h "data" rfl, and_self]
  | resource =>
    intro method
    have htype := h "type" (by simp [Knows])
    have hid := h "id" (by simp [Knows])
    have hattributes := h "attributes" (by simp [Knows])
    have hrelationships := h "relationships" (by simp [Knows])
    simp only [Resource.ofPrimary, Resource.ofPrimaryMembers, htype, hid, hattributes,
      hrelationships, Resource.listOfPrimary, and_self]
  | relationships => exact absurd rfl hlevel
  | relationship =>
    intro name
    simp only [Relationship.ofPrimary, h "data" rfl]
  | identifier =>
    intro place
    have hmember : ∀ m : IdentifierMember, Members.get? m.name ms = Members.get? m.name ms' := by
      intro m
      cases m with
      | type => exact h "type" (by simp [Knows])
      | id => exact h "id" (by simp [Knows])
    simp only [Identifier.ofPrimary, Linkage.ofPrimary, Violation.checkIdentifier,
      Violation.checkMember, hmember, and_self]

/-- Objects are the same to their readers when they differ in a value that is the same to its
readers. -/
theorem agree_inMember (hlower : level.Holds name lower) (h : lower.Agree v w) :
    level.Agree (.object (front ++ (name, v) :: back)) (.object (front ++ (name, w) :: back)) := by
  cases hlower with
  | data =>
    intro method
    exact ⟨Document.ofJson_append_cons (h method).1, Document.ofJson_append_cons (h method).2⟩
  | relationships =>
    intro method
    have hother : ∀ n : Text, ("relationships" : Text) ≠ n →
        Members.get? n (front ++ (("relationships" : Text), v) :: back) =
          Members.get? n (front ++ (("relationships" : Text), w) :: back) := fun n hn => by
      rw [Members.get?_append_cons_of_ne hn, Members.get?_append_cons_of_ne hn]
    have hrelationships := Members.apply_get?_append_cons (f := Option.mapM Relationships.ofPrimary)
      (congrArg (Except.map some) h) "relationships" "relationships" front back
    refine ⟨?_, rfl⟩
    simp only [Resource.ofPrimary, Resource.ofPrimaryMembers, hother "type" (by decide),
      hother "id" (by decide), hother "attributes" (by decide), hrelationships]
  | relationship =>
    simp only [Agree, Relationships.ofPrimary, List.mapM_append, List.mapM_cons, h name]
  | linkage =>
    intro name
    exact Members.apply_get?_append_cons (f := fun o => match o with
      | some v => (Linkage.ofPrimary (Violation.linkagePlace name) v).map Relationship.mk
      | none => .error ⟨.relationship name, Violation.relationshipsPlace ++ [name]⟩)
      (congrArg (Except.map Relationship.mk) (h (Violation.linkagePlace name)).2) "data" "data"
      front back

/-- Arrays are the same to their readers when they differ in an item that is. -/
theorem agree_inItem {front back : List Json} (hlevel : level.Listed) (h : level.Agree v w) :
    level.Agree (.array (front ++ v :: back)) (.array (front ++ w :: back)) := by
  cases hlevel with
  | resource =>
    intro method
    refine ⟨rfl, ?_⟩
    simp only [Resource.listOfPrimary, List.mapM_append, List.mapM_cons, (h method).1]
  | identifier =>
    intro place
    refine ⟨rfl, ?_⟩
    rw [Linkage.ofPrimary, Linkage.ofPrimary,
      Linkage.itemsOfPrimary_append_cons (fun place => (h place).1)]

theorem ne_relationships (h : ¬ level.Knows name) : level ≠ .relationships := by
  rintro rfl
  exact h trivial

theorem get?_of_knows (h : ¬ level.Knows name) {n : Text} (hn : level.Knows n) :
    Members.get? n (front ++ (name, v) :: back) = Members.get? n (front ++ back) := by
  refine Members.get?_append_cons_of_ne ?_
  rintro rfl
  exact h hn

/-- **An edit is not seen**: what was edited at a level is the same as before to those who read it
at that level. -/
theorem agree_of_edit (h : Edit level v w) : level.Agree v w := by
  -- one case for each kind of edit; an edit further down is not seen there
  induction h with
  | add _ h => exact agree_of_get (ne_relationships h) fun n hn => (get?_of_knows h hn).symm
  | remove _ h => exact agree_of_get (ne_relationships h) fun n hn => get?_of_knows h hn
  | change _ h =>
    refine agree_of_get (ne_relationships h) fun n hn => ?_
    rw [get?_of_knows h hn, get?_of_knows h hn]
  | reorder hlevel hnames h => exact agree_of_get hlevel fun n _ => Members.get?_perm hnames h n
  | inMember _ hlower _ ih => exact agree_inMember hlower ih
  | inItem _ hlevel _ ih => exact agree_inItem hlevel ih

/-- Edits of a document, one after the other, are not seen. -/
theorem agree_of_edits (h : Relation.ReflTransGen (Edit .document) v w) :
    Level.document.Agree v w := by
  induction h with
  | refl => exact fun _ => ⟨rfl, rfl⟩
  | tail _ hedit ih =>
    intro method
    obtain ⟨hsingle, hmany⟩ := agree_of_edit hedit method
    exact ⟨(ih method).1.trans hsingle, (ih method).2.trans hmany⟩

end Level

end

/-! ### What comes of documents -/

namespace Document

variable {settings : Except ValidationError Settings} {headers : GivenHeaders} {body body' : Body}
  {bs bs' : Bytes} {d d' : Json}

/-- **Members that the reader does not know never matter.**  Let two bodies hold documents of which
one arises from the other by edits in places that the reader does not look at.  Then the same comes
of both, be it resources, an error or a line of the log. -/
theorem unknown_members_skipped (method : Text) (settings : Except ValidationError Settings)
    (headers : GivenHeaders) (hbody : body.read = .ok bs) (hbs : Json.ofBytes bs = .ok d)
    (hbody' : body'.read = .ok bs') (hbs' : Json.ofBytes bs' = .ok d')
    (h : Relation.ReflTransGen (Edit .document) d d') :
    readSingle method settings headers body = readSingle method settings headers body' ∧
      readMany method settings headers body = readMany method settings headers body' := by
  obtain ⟨hsingle, hmany⟩ := Level.agree_of_edits h method
  simp only [readSingle, readMany, read_eq, hbody, hbody', Except.ok_bind, ofBytes_eq_ofJson hbs,
    ofBytes_eq_ofJson hbs', hsingle, hmany, and_self]

/-- The document of a user. -/
def user : Json := .object [("data", .object [("type", .string "user"), ("id", .string "1")])]

/-- The document of the same user with meta information, links and its id before its type. -/
def adornedUser : Json :=
  .object [("meta", .null),
    ("data", .object [("id", .string "1"), ("links", .array []), ("type", .string "user")])]

theorem edits_user : Relation.ReflTransGen (Edit .document) user adornedUser := by
  have hmeta : ¬ Level.document.Knows "meta" := by decide
  have hlinks : ¬ Level.resource.Knows "links" := by decide
  refine .head (.add [] hmeta (m := ("meta", .null))) ?_
  refine .head (.inMember [("meta", .null)] .data
    (.add [("type", .string "user")] hlinks (m := ("links", .array [])))) ?_
  refine .single (.inMember [("meta", .null)] .data (.reorder nofun ?_ ?_))
  · decide
  · exact (List.reverse_perm _).symm

theorem unknown_members_skipped_user :
    ∃ bs bs', Json.toBytes .compact user = .ok bs ∧ Json.toBytes .compact adornedUser = .ok bs' ∧
      ∀ method settings headers,
        readSingle method settings headers (.bytes bs) =
          readSingle method settings headers (.bytes bs') := by
  obtain ⟨bs, hbs⟩ := Except.exists_of_isOk (x := Json.toBytes .compact user) (by decide +kernel)
  obtain ⟨bs', hbs'⟩ := Except.exists_of_isOk (x := Json.toBytes .compact adornedUser)
    (by decide +kernel)
  have hread : ∀ {v bs}, Json.toBytes .compact v = .ok bs → Json.ofBytes bs = .ok v.merged :=
    Json.ofBytes_toBytes Json.Layout.standard_compact
  refine ⟨bs, bs', hbs, hbs', fun method settings headers => ?_⟩
  exact (unknown_members_skipped method settings headers rfl (hread hbs) rfl (hread hbs')
    edits_user).1

end Document

end JsonApi
