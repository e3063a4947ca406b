import Groundcover.Proofs.Library
import Groundcover.Symbol
import Mathlib.Data.List.Nodup

/-!
What a library gives for a name, and what becomes of a billboard symbol: of its faults only the
first one is told, and what the symbol says itself comes before its resource, and that before
any default.
-/

namespace Groundcover

/-- A positive number is a finite one that is not at most zero. -/
theorem Single.is_positive_iff (x : Single) :
    x.IsPositive ↔ x.isFinite = true ∧ ¬x.AtMost zero := by
  unfold IsPositive
  refine and_congr_right fun hfinite => ?_
  have hnan : x.isNaN = false := by
    have hlt : x.rank / hiddenBit < 255 := of_decide_eq_true hfinite
    unfold hiddenBit at hlt
    exact decide_eq_false (by unfold hiddenBit; omega)
  have hplace : x.AtMost zero ↔ x.place ≤ 0 := by
    unfold AtMost
    rw [hnan]
    exact ⟨fun h => h.2.2, fun h => ⟨rfl, rfl, h⟩⟩
  rw [hplace, place]
  cases x.isNegative with
  | true => simp
  | false => simp [Nat.pos_iff_ne_zero]

namespace Library

/-- In a library without repeated names, a name leads to the one resource that has it. -/
theorem get_eq_some_iff {l : Library} (h : (l.resources.map Resource.name).Nodup) {name : String}
    {r : Resource} : l.get? name = some r ↔ r ∈ l.resources ∧ r.name = name := by
  unfold get?
  constructor
  · intro hget
    exact ⟨List.mem_of_find?_eq_some hget, by simpa using List.find?_some hget⟩
  · rintro ⟨hr, rfl⟩
    cases hget : l.resources.find? fun s => s.name = r.name with
    | none =>
      have habsent := List.find?_eq_none.mp hget r hr
      simp at habsent
    | some found =>
      have hname : found.name = r.name := by simpa using List.find?_some hget
      rw [List.inj_on_of_nodup_map h (List.mem_of_find?_eq_some hget) hr hname]

/-- A library that is made lists the resources of its configuration, whose names are distinct. -/
theorem of_config_ok {c : LibraryConfig} {l : Library} (h : (ofConfig c).value = .ok l) :
    l = ⟨c.name, c.resources⟩ ∧ c.resourceNames.Nodup := by
  by_cases hdistinct : c.resourceNames.Nodup
  · rw [of_config_distinct hdistinct] at h
    exact ⟨(Except.ok.inj h).symm, hdistinct⟩
  · obtain ⟨name, herror, -⟩ := of_config_repeated hdistinct
    rw [herror] at h
    cases h

theorem get_of_config {c : LibraryConfig} {l : Library} (h : (ofConfig c).value = .ok l)
    {name : String} {r : Resource} : l.get? name = some r ↔ r ∈ c.resources ∧ r.name = name := by
  obtain ⟨rfl, hdistinct⟩ := of_config_ok h
  unfold LibraryConfig.resourceNames at hdistinct
  exact get_eq_some_iff hdistinct

/-- No library, or the one that a configuration makes. -/
def Built (c : LibraryConfig) (library : Option Library) : Prop :=
  ∀ l, library = some l → (ofConfig c).value = .ok l

/-- There is nothing to be had under a name: no library, or no such resource in it. -/
def Lacks (c : LibraryConfig) (library : Option Library) (name : String) : Prop :=
  library = none ∨ ∀ r ∈ c.resources, r.name ≠ name

end Library

namespace BillboardSymbol

/-- The resource that a symbol draws on: none if it names none, else the one of that name. -/
def DrawsOn (b : BillboardSymbol) (c : LibraryConfig) (library : Option Library) :
    Option Resource → Prop
  | none => b.resource = none
  | some r => b.resource = some r.name ∧ library ≠ none ∧ r ∈ c.resources

def widthWith (b : BillboardSymbol) (resource : Option Resource) : Single :=
  (b.width.or (resource.map Resource.width)).getD defaultWidth

def heightWith (b : BillboardSymbol) (resource : Option Resource) : Single :=
  (b.height.or (resource.map Resource.height)).getD defaultHeight

theorem DrawsOn.not_lacking {b : BillboardSymbol} {c : LibraryConfig} {library : Option Library}
    {r : Option Resource} {name : String} (h : b.DrawsOn c library r)
    (hname : b.resource = some name) : ¬Library.Lacks c library name := by
  cases r with
  | none =>
    cases hname.symm.trans h
  | some r =>
    obtain ⟨hresource, hlibrary, hr⟩ := h
    cases hname.symm.trans hresource
    rintro (hnone | habsent)
    · exact hlibrary hnone
    · exact habsent r hr rfl

/-- A size is refused as a whole, unless both numbers are finite and above zero. -/
theorem sized_eq (url : String) (width height : Single) :
    sized url width height =
      if (width.isFinite = true ∧ ¬width.AtMost .zero) ∧
        height.isFinite = true ∧ ¬height.AtMost .zero
      then .ok ⟨url, width, height⟩ else .error (.invalidBillboardSize url width height) := by
  simp only [sized, Single.is_positive_iff]

theorem sized_is_resolved (url : String) (width height : Single) (resource : Option String) :
    sized url width height ≠ .error (.unresolvedBillboard resource) := by
  unfold sized
  split
  · exact nofun
  · exact nofun

section Resolve

variable {c : LibraryConfig} {library : Option Library} (hbuilt : Library.Built c library)
  (b : BillboardSymbol)
include hbuilt

/-- A symbol names no resource, or one that the library has, or one that is not there. -/
theorem resource_cases :
    (∃ r, b.DrawsOn c library r ∧ b.resource? library = .ok r) ∨
    ∃ name, b.resource = some name ∧ Library.Lacks c library name ∧
      b.resource? library = .error (.unresolvedBillboard (some name)) := by
  cases hresource : b.resource with
  | none => exact .inl ⟨none, hresource, by rw [resource?, hresource]⟩
  | some name =>
    cases library with
    | none => exact .inr ⟨name, rfl, .inl rfl, by rw [resource?, hresource]; rfl⟩
    | some l =>
      have hfound (r : Resource) : l.get? name = some r ↔ r ∈ c.resources ∧ r.name = name :=
        Library.get_of_config (hbuilt l rfl)
      cases hget : l.get? name with
      | none =>
        refine .inr ⟨name, rfl, .inr fun r hr hname => ?_, by simp [resource?, hresource, hget]⟩
        rw [(hfound r).mpr ⟨hr, hname⟩] at hget
        cases hget
      | some r =>
        obtain ⟨hr, rfl⟩ := (hfound r).mp hget
        exact .inl ⟨some r, ⟨hresource, Option.some_ne_none l, hr⟩,
          by simp [resource?, hresource, hget]⟩

/-- What becomes of a symbol, in the order in which its faults are looked for. -/
theorem resolve_cases :
    (∃ name, b.resource = some name ∧ Library.Lacks c library name ∧
      b.resolve library = .error (.unresolvedBillboard (some name))) ∨
    (b.resource = none ∧ b.url = none ∧
      b.resolve library = .error (.unresolvedBillboard none)) ∨
    ∃ r url, b.DrawsOn c library r ∧ b.url.or (r.map Resource.url) = some url ∧
      b.resolve library = sized url (b.widthWith r) (b.heightWith r) := by
  rcases resource_cases hbuilt b with ⟨r, hdraws, hresource⟩ | ⟨name, hname, hlacks, hresource⟩
  · right
    cases hurl : b.url.or (r.map Resource.url) with
    | some url =>
      refine .inr ⟨r, url, hdraws, hurl, ?_⟩
      rw [resolve, hresource]
      simp only [hurl]
      rfl
    | none =>
      -- A resource has a url, so the symbol names none.
      obtain ⟨hown, hnone⟩ := Option.or_eq_none_iff.mp hurl
      obtain rfl := Option.map_eq_none_iff.mp hnone
      refine .inl ⟨hdraws, hown, ?_⟩
      rw [resolve, hresource]
      simp only [hurl]
  · refine .inl ⟨name, hname, hlacks, ?_⟩
    rw [resolve, hresource]

theorem missing_iff (name : String) :
    b.resolve library = .error (.unresolvedBillboard (some name)) ↔
      b.resource = some name ∧ Library.Lacks c library name := by
  rcases resolve_cases hbuilt b with ⟨other, hother, hlacks, hr⟩ | ⟨hnone, -, hr⟩ |
    ⟨r, url, hdraws, -, hr⟩
  · rw [hr, hother]
    constructor
    · intro h
      cases h
      exact ⟨rfl, hlacks⟩
    · rintro ⟨h, -⟩
      cases h
      rfl
  · rw [hr, hnone]
    exact ⟨nofun, nofun⟩
  · rw [hr]
    constructor
    · intro h
      exact absurd h (sized_is_resolved _ _ _ _)
    · rintro ⟨hname, hlacks⟩
      exact absurd hlacks (hdraws.not_lacking hname)

theorem nothing_named_iff :
    b.resolve library = .error (.unresolvedBillboard none) ↔ b.resource = none ∧ b.url = none := by
  rcases resolve_cases hbuilt b with ⟨name, hname, -, hr⟩ | ⟨hnone, hurl, hr⟩ |
    ⟨r, url, hdraws, hurl, hr⟩
  · rw [hr, hname]
    exact ⟨nofun, nofun⟩
  · exact ⟨fun _ => ⟨hnone, hurl⟩, fun _ => hr⟩
  · rw [hr]
    constructor
    · intro h
      exact absurd h (sized_is_resolved _ _ _ _)
    · rintro ⟨hnone, hown⟩
      rw [hown, Option.none_or] at hurl
      cases r with
      | none => cases hurl
      | some r => cases hnone.symm.trans hdraws.1

end Resolve

end BillboardSymbol

/-- A configuration makes a library exactly if its resources have different names, and is refused
for the first name with an equal one before it; a library has just the resources of its
configuration. With the library or without, a symbol that names a resource which is not there is
refused for that, whatever else it says, and one that names neither resource nor url for having no
image. Any other has its own url or that of its resource, and each side of its size from itself,
else its resource, else the default; it is refused with that size, or resolved, as both sides are
finite and above zero or not. -/
theorem symbols_resolve_in_order (c : LibraryConfig) :
    ((∃ l, (Library.ofConfig c).value = .ok l) ↔ c.resourceNames.Nodup) ∧
    (¬c.resourceNames.Nodup → ∃ name, (Library.ofConfig c).value = .error ⟨c.name, name⟩ ∧
      FirstRepeat c.resourceNames name) ∧
    (∀ l, (Library.ofConfig c).value = .ok l → l.size = c.resources.length ∧
      ∀ name r, l.get? name = some r ↔ r ∈ c.resources ∧ r.name = name) ∧
    ∀ library, Library.Built c library → ∀ b : BillboardSymbol,
      (∀ name, b.resolve library = .error (.unresolvedBillboard (some name)) ↔
        b.resource = some name ∧ Library.Lacks c library name) ∧
      (b.resolve library = .error (.unresolvedBillboard none) ↔
        b.resource = none ∧ b.url = none) ∧
      ((∃ name, b.resource = some name ∧ Library.Lacks c library name) ∨
        (b.resource = none ∧ b.url = none) ∨
        ∃ r url, b.DrawsOn c library r ∧ b.url.or (r.map Resource.url) = some url ∧
          b.resolve library =
            let width := b.widthWith r
            let height := b.heightWith r
            if (width.isFinite = true ∧ ¬width.AtMost .zero) ∧
              height.isFinite = true ∧ ¬height.AtMost .zero
            then .ok ⟨url, width, height⟩
            else .error (.invalidBillboardSize url width height)) := by
  refine ⟨⟨?_, ?_⟩, Library.of_config_repeated, ?_, ?_⟩
  · rintro ⟨l, hl⟩
    exact (Library.of_config_ok hl).2
  · intro hdistinct
    exact ⟨_, Library.of_config_distinct hdistinct⟩
  · intro l hl
    refine ⟨?_, fun name r => Library.get_of_config hl⟩
    rw [(Library.of_config_ok hl).1]
    rfl
  · intro library hbuilt b
    refine ⟨b.missing_iff hbuilt, b.nothing_named_iff hbuilt, ?_⟩
    rcases b.resolve_cases hbuilt with ⟨name, hname, hlacks, -⟩ | ⟨hresource, hurl, -⟩ |
      ⟨r, url, hdraws, hurl, hresolve⟩
    · exact .inl ⟨name, hname, hlacks⟩
    · exact .inr (.inl ⟨hresource, hurl⟩)
    · refine .inr (.inr ⟨r, url, hdraws, hurl, ?_⟩)
      rw [hresolve, BillboardSymbol.sized_eq]

/-- Two resources, and both of them once more; a symbol with a url that names neither of them, and
one that says nothing. -/
theorem symbols_resolve_in_order_override :
    let c : LibraryConfig :=
      ⟨"l", [⟨"oak", "oak.png", .quietNaN false, .one⟩, ⟨"fir", "", .one, .one⟩]⟩
    let library : Library := ⟨c.name, c.resources⟩
    let repeated : LibraryConfig := ⟨"l", c.resources ++ c.resources⟩
    c.resourceNames.Nodup ∧ Library.Built c (some library) ∧
      (∃ name, (Library.ofConfig repeated).value = .error ⟨"l", name⟩ ∧
        FirstRepeat repeated.resourceNames name) ∧
      library.get? "fir" = some ⟨"fir", "", .one, .one⟩ ∧
      BillboardSymbol.resolve { url := some "u", resource := some "elm" } (some library) =
        .error (.unresolvedBillboard (some "elm")) ∧
      BillboardSymbol.resolve {} (some library) = .error (.unresolvedBillboard none) := by
  intro c library repeated
  have hdistinct : c.resourceNames.Nodup := by decide
  have hrepeated : ¬repeated.resourceNames.Nodup := by decide
  have hmade : (Library.ofConfig c).value = .ok library := rfl
  have hbuilt : Library.Built c (some library) := by
    intro l hl
    cases hl
    exact hmade
  obtain ⟨-, -, hlibrary, hsymbols⟩ := symbols_resolve_in_order c
  obtain ⟨-, hget⟩ := hlibrary library hmade
  refine ⟨hdistinct, hbuilt, (symbols_resolve_in_order repeated).2.1 hrepeated, ?_, ?_, ?_⟩
  · exact (hget _ _).mpr ⟨by decide, rfl⟩
  · exact ((hsymbols _ hbuilt _).1 "elm").mpr ⟨rfl, .inr (by decide)⟩
  · exact (hsymbols _ hbuilt _).2.1.mpr ⟨rfl, rfl⟩

end Groundcover
