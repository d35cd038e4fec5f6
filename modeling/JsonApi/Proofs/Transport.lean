import JsonApi.Proofs.Request.Stages
import JsonApi.Proofs.Response
import JsonApi.Proofs.Url.Authority
import JsonApi.Transport

/-!
# What the transport gets and gives

A request that was built below a base without user information has none either, so it goes to the
transport as it is (`Request.authorized_of_userInfo`), and its URL names a scheme
(`Transport.checkScheme_of_isServed`).  A response that supplies its bytes comes back with the
method of the request and supplies them again, unless it sends the client to a place that is none
(`Transport.receive_response`).
-/

namespace JsonApi

/-! ### Requests -/

namespace Url

variable {u v : Url} {c : CodePoint} {s t : Text}

/-- Cutting a text at the last place of a character keeps what stands in front without it. -/
theorem exists_append_of_cutLast? (hc : c ∉ s) (t : Text) :
    ∃ rest, ((cutLast? c (s ++ t)).getD (s ++ t, [])).1 = s ++ rest := by
  cases hcut : cutLast? c (s ++ t) with
  | none => exact ⟨t, rfl⟩
  | some p =>
    obtain ⟨front, behind⟩ := p
    rcases List.append_eq_append_iff.1 (append_of_cutLast? hcut) with
      ⟨rest, hfront, -⟩ | ⟨w, hs, hbehind⟩
    · exact ⟨rest, hfront⟩
    · cases w with
      | nil => exact ⟨[], by simpa using hs.symm⟩
      | cons x w =>
        rw [List.cons_append] at hbehind
        have hx : x ∈ s := hs ▸ List.mem_append_right _ List.mem_cons_self
        exact absurd ((List.head_eq_of_cons_eq hbehind) ▸ hx) hc

theorem userInfo_of_withPath {path : Text} (hhost : IsHost u.host) (hinfo : u.userInfo = [])
    (h : u.withPath path = .ok v) : v.userInfo = [] := by
  have huser := (normalisesTo_of_withPath h).userInfo
  rw [partsWith, splitAuthority_authority hhost, hinfo] at huser
  exact (Except.ok.inj huser).symm

theorem scheme_of_withPath {path : Text} (h : u.withPath path = .ok v) :
    v.scheme = Text.asciiLower u.scheme :=
  (normalisesTo_of_withPath h).scheme.symm

end Url

namespace Request

theorem authorized_of_userInfo {q : Request} (h : q.url.userInfo = []) : q.authorized = q := by
  have hnone : q.credentials? = none := by
    simp [credentials?, h, Text.cut?, Percent.decode_nil]
  rw [authorized, hnone]

end Request

namespace Transport

variable {url : Url} {q : Request} {r : Response} {bs : Bytes}

theorem checkScheme_of_isServed (h : Request.isServed url.scheme = true) :
    checkScheme url = .ok () := by
  have hscheme : url.scheme = "http" ∨ url.scheme = "https" := by simpa [Request.isServed] using h
  have hne : url.scheme ≠ [] := Request.scheme_ne_nil h
  obtain ⟨rest, htext⟩ : ∃ rest, url.text = (url.scheme ++ ":") ++ rest := by
    rw [Url.text, if_neg hne]
    simp only [List.append_assoc]
    exact ⟨_, rfl⟩
  have hbare : .scalar '#' ∉ url.scheme ++ (":" : Text) := by
    rcases hscheme with h | h <;> rw [h] <;> decide
  obtain ⟨rest', hcut⟩ := Url.exists_append_of_cutLast? hbare rest
  have hfront : ((Url.cutLast? (.scalar '#') url.text).getD (url.text, [])).1 =
      url.scheme ++ .scalar ':' :: rest' := by
    rw [htext, hcut, List.append_assoc]
    rfl
  have htake : (url.scheme ++ .scalar ':' :: rest').takeWhile
      (fun c => c ≠ .scalar '/' && c ≠ .scalar ':') = url.scheme := by
    rw [List.takeWhile_append_of_pos]
    · simp
    · rcases hscheme with h | h <;> rw [h] <;> decide
  simp only [checkScheme, hfront]
  rw [htake, if_pos ⟨hne, by simp⟩]

end Transport

/-! ### Responses -/

namespace Response

variable {r : Response} {bs : Bytes}

theorem Supplies.of_close (h : r.close.Supplies bs) : r.Supplies bs := by
  cases h with
  | held h => exact .held h
  | waiting bss h hclosed hbs => cases hclosed

theorem Supplies.withMethod (h : r.Supplies bs) (method : Option Text) :
    ({ r with requestMethod := method } : Response).Supplies bs := by
  cases h with
  | held h => exact .held h
  | waiting bss h hclosed hbs => exact .waiting bss h hclosed hbs

end Response

namespace Transport

variable {q : Request} {r : Response} {bs : Bytes}

/-- What comes back is the response after it has been read, unless it sends the client nowhere. -/
theorem receive_response (hscheme : checkScheme q.url = .ok ())
    (hcoding : Response.Coding.ofHeaders r.headers = []) (h : r.Supplies bs) :
    receive q (.response r) = (checkLocation r).map fun _ =>
      ({ r with requestMethod := some q.method } : Response).read.2 := by
  have hread := ((h.withMethod (some q.method)).read hcoding).1
  have hlocation : checkLocation { r with requestMethod := some q.method } = checkLocation r := rfl
  rw [receive, hscheme, Except.ok_bind, hlocation]
  cases checkLocation r with
  | error f => rfl
  | ok _ =>
    rw [Except.ok_bind]
    cases hresult : ({ r with requestMethod := some q.method } : Response).read with
    | mk content received =>
      rw [hresult] at hread
      obtain rfl : content = .ok bs := hread
      rfl

/-- What comes back supplies the bytes again, under the same headers. -/
theorem supplies_received (hcoding : Response.Coding.ofHeaders r.headers = [])
    (h : r.Supplies bs) (method : Text) {received : Response}
    (hreceived : received = ({ r with requestMethod := some method } : Response).read.2) :
    received.Supplies bs ∧ received.headers = r.headers ∧
      received.requestMethod = some method := by
  have hsupplies := ((h.withMethod (some method)).read hcoding).2.of_close
  obtain ⟨content, closed, hread⟩ :=
    ({ r with requestMethod := some method } : Response).exists_read_snd
  rw [← hreceived] at hsupplies hread
  exact ⟨hsupplies, hread ▸ rfl, hread ▸ rfl⟩

end Transport

end JsonApi
