import JsonApi.Proofs.Url.Path

/-!
# Normal forms of URLs

What a URL owes to each of the components that it was made from (`Url.Parts.NormalisesTo`), and what
becomes of its path when it has a scheme.
-/

namespace JsonApi.Url

/-- Whether a URL has any part of an authority. -/
def hasAuthority (u : Url) : Bool := u.userInfo != [] || u.host != [] || u.port.isSome

/-- A component is escaped as the other one, where there is one. -/
def EscapedWhere (isSafe : CodePoint → Bool) : Option Text → Option Text → Prop :=
  Option.Rel fun t e => Percent.encode isSafe t = .ok e

/-- The components have the URL for their normal form. -/
structure Parts.NormalisesTo (p : Parts) (u : Url) : Prop where
  scheme : Text.asciiLower p.scheme = u.scheme
  userInfo : Percent.encode isSafeInUserInfo (splitAuthority p.authority).1 = .ok u.userInfo
  host : normaliseHost (splitAuthority p.authority).2.1 = .ok u.host
  port : normalisePort p.scheme (splitAuthority p.authority).2.2 = .ok u.port
  start : checkPath (u.scheme != []) u.hasAuthority p.path = .ok ()
  path : EscapedAs (if u.scheme != [] || u.hasAuthority then normalisePath p.path else p.path)
    u.path
  query : EscapedWhere isSafeInQuery p.query u.query
  fragment : EscapedWhere isSafeInFragment p.fragment u.fragment

theorem mapM_escaped_eq_ok_iff {isSafe : CodePoint → Bool} {t e : Option Text} :
    t.mapM (fun t => (Percent.encode isSafe t).mapError Refusal.unencodable) = .ok e ↔
      EscapedWhere isSafe t e := by
  cases t with
  | none =>
    constructor
    · intro h
      obtain rfl := Except.ok.inj h
      exact .none
    · rintro ⟨⟩
      rfl
  | some t =>
    have hsome : (some t).mapM (fun t => (Percent.encode isSafe t).mapError Refusal.unencodable) =
      ((Percent.encode isSafe t).mapError Refusal.unencodable).map some := rfl
    rw [hsome, Except.map_eq_ok_iff]
    constructor
    · rintro ⟨e, he, rfl⟩
      exact .some (Except.mapError_eq_ok_iff.1 he)
    · intro h
      cases h with
      | some he => exact ⟨_, Except.mapError_eq_ok_iff.2 he, rfl⟩

theorem Parts.normalise_eq_ok_iff {p : Parts} {u : Url} :
    p.normalise = .ok u ↔ p.NormalisesTo u := by
  constructor
  · intro h
    obtain ⟨userInfo, huser, h⟩ := Except.bind_eq_ok_iff.1 h
    obtain ⟨host, hhost, h⟩ := Except.bind_eq_ok_iff.1 h
    obtain ⟨port, hport, h⟩ := Except.bind_eq_ok_iff.1 h
    obtain ⟨_, hstart, h⟩ := Except.bind_eq_ok_iff.1 h
    obtain ⟨path, hpath, h⟩ := Except.bind_eq_ok_iff.1 h
    obtain ⟨query, hquery, h⟩ := Except.bind_eq_ok_iff.1 h
    obtain ⟨fragment, hfragment, h⟩ := Except.bind_eq_ok_iff.1 h
    obtain rfl := Except.ok.inj h
    exact ⟨rfl, Except.mapError_eq_ok_iff.1 huser, hhost, hport, hstart,
      Except.mapError_eq_ok_iff.1 hpath, mapM_escaped_eq_ok_iff.1 hquery,
      mapM_escaped_eq_ok_iff.1 hfragment⟩
  · intro h
    refine Except.bind_eq_ok_iff.2 ⟨u.userInfo, Except.mapError_eq_ok_iff.2 h.userInfo, ?_⟩
    refine Except.bind_eq_ok_iff.2 ⟨u.host, h.host, ?_⟩
    refine Except.bind_eq_ok_iff.2 ⟨u.port, h.port, ?_⟩
    refine Except.bind_eq_ok_iff.2 ⟨(), h.scheme ▸ h.start, ?_⟩
    refine Except.bind_eq_ok_iff.2 ⟨u.path, Except.mapError_eq_ok_iff.2 (h.scheme ▸ h.path), ?_⟩
    refine Except.bind_eq_ok_iff.2 ⟨u.query, mapM_escaped_eq_ok_iff.2 h.query, ?_⟩
    refine Except.bind_eq_ok_iff.2 ⟨u.fragment, mapM_escaped_eq_ok_iff.2 h.fragment, ?_⟩
    rw [h.scheme]
    rfl

theorem ofText_eq_ok_iff {t : Text} {u : Url} :
    ofText t = .ok u ↔ checkText t = .ok () ∧ (split t).NormalisesTo u := by
  rw [← Parts.normalise_eq_ok_iff, ofText, Except.bind_eq_ok_iff]
  exact ⟨fun ⟨_, h⟩ => h, fun h => ⟨(), h⟩⟩

/-- The components of a URL with another path. -/
def partsWith (u : Url) (path : Text) : Parts :=
  ⟨u.scheme, u.authority, path, u.query, u.fragment⟩

/-- Checks each of some components. -/
def Parts.check (p : Parts) : Except Refusal Unit :=
  Component.scheme.check p.scheme >>= fun _ =>
    Component.authority.check p.authority >>= fun _ =>
      Component.path.check p.path >>= fun _ =>
        p.query.elim (.ok ()) Component.query.check >>= fun _ =>
          p.fragment.elim (.ok ()) Component.fragment.check

theorem withPath_eq (u : Url) (path : Text) :
    u.withPath path = (u.partsWith path).check >>= fun _ => (u.partsWith path).normalise := by
  simp only [withPath, Parts.check, partsWith]
  cases Component.scheme.check u.scheme with
  | error e => rfl
  | ok _ =>
    cases Component.authority.check u.authority with
    | error e => rfl
    | ok _ =>
      cases Component.path.check path with
      | error e => rfl
      | ok _ =>
        cases u.query with
        | none => cases u.fragment <;> rfl
        | some q =>
          simp only [Option.elim_some]
          cases Component.query.check q with
          | error e => rfl
          | ok _ => cases u.fragment <;> rfl

theorem withPath_eq_ok_iff {u v : Url} {path : Text} : u.withPath path = .ok v ↔
    (u.partsWith path).check = .ok () ∧ (u.partsWith path).NormalisesTo v := by
  rw [withPath_eq, Except.bind_eq_ok_iff, Parts.normalise_eq_ok_iff]
  exact exists_and_right.trans (and_congr_left' ⟨fun ⟨_, h⟩ => h, fun h => ⟨_, h⟩⟩)

theorem normalisesTo_of_withPath {u v : Url} {path : Text} (h : u.withPath path = .ok v) :
    (u.partsWith path).NormalisesTo v :=
  (withPath_eq_ok_iff.1 h).2

end JsonApi.Url
