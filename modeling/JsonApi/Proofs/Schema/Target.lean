import JsonApi.Proofs.Json.Limits
import JsonApi.Proofs.Schema.Form
import JsonApi.Schema.Record

/-!
# The forms of records and lists

The data that the schemas of `Schema.Record` describe, and lists of integers and of texts, each with
its form.

* `Target.faithful` : different data of a target have different JSON values;
* `Target.depth_le` : these are not nested deep.
-/

namespace JsonApi

/-- A user. -/
structure User where
  name : Text
  age : Int

/-- A point in the plane. -/
structure Point where
  x : Int
  y : Int

/-- A profile of a user. -/
structure Profile where
  user : User
  tags : List Text
  nick : Option Text

namespace Form

/-- The form of users. -/
def user : Form User :=
  record .model "UserAttributes"
    [⟨"name", none, text.comap User.name⟩, ⟨"age", none, integer.comap User.age⟩]
    (by decide) (by decide)

/-- The form of points. -/
def point : Form Point :=
  record .dataclass "Point"
    [⟨"x", none, integer.comap Point.x⟩, ⟨"y", none, integer.comap Point.y⟩]
    (by decide) (by decide)

/-- A nickname, which may be missing. -/
def nick : Form (Option Text) := text.optional nofun

theorem faithful_nick : nick.Faithful := faithful_optional nofun faithful_text

/-- The form of profiles. -/
def profile : Form Profile :=
  record .model "Profile"
    [⟨"user", none, user.comap Profile.user⟩,
      ⟨"tags", some (.array []), text.list.comap Profile.tags⟩,
      ⟨"nick", some .null, nick.comap Profile.nick⟩]
    (by decide) (by decide)

theorem faithful_user : user.Faithful := by
  refine faithful_record fun a b h => ?_
  simp only [List.forall_mem_cons] at h
  obtain ⟨hname, hage, -⟩ := h
  cases a
  cases b
  obtain rfl := faithful_text hname
  obtain rfl := faithful_integer hage
  rfl

theorem faithful_point : point.Faithful := by
  refine faithful_record fun a b h => ?_
  simp only [List.forall_mem_cons] at h
  obtain ⟨hx, hy, -⟩ := h
  cases a
  cases b
  obtain rfl := faithful_integer hx
  obtain rfl := faithful_integer hy
  rfl

theorem faithful_profile : profile.Faithful := by
  refine faithful_record fun a b h => ?_
  simp only [List.forall_mem_cons] at h
  obtain ⟨huser, htags, hnick, -⟩ := h
  cases a
  cases b
  obtain rfl := faithful_user huser
  obtain rfl := faithful_list faithful_text htags
  obtain rfl := faithful_nick hnick
  rfl

/-! ### Depth -/

variable {α : Type} {n : Nat}

theorem depth_list_le_iff {f : Form α} {as : List α} :
    (f.list.json as).depth ≤ n + 1 ↔ ∀ a ∈ as, (f.json a).depth ≤ n :=
  Json.depth_array_le_iff.trans List.forall_mem_map

theorem depth_record_le_iff {kind : RecordKind} {name : Text} {fields : List (Field α)}
    {hnames : (fields.map Field.name).Nodup}
    {hkept : ∀ f ∈ fields, Draft.isBookkeeping f.name = false} {a : α} :
    ((record kind name fields hnames hkept).json a).depth ≤ n + 1 ↔
      ∀ f ∈ fields, (f.form.json a).depth ≤ n :=
  Json.depth_object_le_iff.trans List.forall_mem_map

theorem depth_text_le (t : Text) : (text.json t).depth ≤ n := Nat.zero_le n

theorem depth_integer_le (i : Int) : (integer.json i).depth ≤ n := Nat.zero_le n

theorem depth_nick_le (t : Option Text) : (nick.json t).depth ≤ n := by
  cases t with
  | none => exact Nat.zero_le n
  | some t => exact depth_text_le t

theorem depth_user_le (u : User) : (user.json u).depth ≤ n + 1 := by
  rw [user, depth_record_le_iff, List.forall_mem_cons, List.forall_mem_singleton]
  exact ⟨depth_text_le u.name, depth_integer_le u.age⟩

theorem depth_point_le (p : Point) : (point.json p).depth ≤ n + 1 := by
  rw [point, depth_record_le_iff, List.forall_mem_cons, List.forall_mem_singleton]
  exact ⟨depth_integer_le p.x, depth_integer_le p.y⟩

theorem depth_profile_le (p : Profile) : (profile.json p).depth ≤ n + 2 := by
  rw [profile, depth_record_le_iff, List.forall_mem_cons, List.forall_mem_cons,
    List.forall_mem_singleton]
  exact ⟨depth_user_le p.user, depth_list_le_iff.2 fun t _ => depth_text_le t, depth_nick_le p.nick⟩

end Form

/-- What attributes may be read back into. -/
inductive Target
  | user
  | point
  | profile
  | integers
  | texts

namespace Target

/-- The data of a target. -/
def Data : Target → Type
  | .user => User
  | .point => Point
  | .profile => Profile
  | .integers => List Int
  | .texts => List Text

/-- The form of the data of a target. -/
def form : (t : Target) → Form t.Data
  | .user => .user
  | .point => .point
  | .profile => .profile
  | .integers => Form.integer.list
  | .texts => Form.text.list

/-- The schema of a target. -/
def schema : Target → Schema
  | .user => .user
  | .point => .point
  | .profile => .profile
  | .integers => .list .integer
  | .texts => .list .text

theorem schema_form (t : Target) : t.form.schema = t.schema := by cases t <;> rfl

theorem isPayload_value (t : Target) (u : t.Data) : (t.form.value u).isPayload = false := by
  cases t <;> rfl

theorem faithful (t : Target) : t.form.Faithful := by
  cases t with
  | user => exact Form.faithful_user
  | point => exact Form.faithful_point
  | profile => exact Form.faithful_profile
  | integers => exact Form.faithful_list Form.faithful_integer
  | texts => exact Form.faithful_list Form.faithful_text

/-- The data of a target are nested in two containers at most. -/
theorem depth_le (t : Target) (u : t.Data) : (t.form.json u).depth ≤ 2 := by
  cases t with
  | user => exact Form.depth_user_le u
  | point => exact Form.depth_point_le u
  | profile => exact Form.depth_profile_le u
  | integers => exact Form.depth_list_le_iff.2 fun n _ => Form.depth_integer_le n
  | texts => exact Form.depth_list_le_iff.2 fun t _ => Form.depth_text_le t

end Target

end JsonApi
