import MayastorExtensions.Library.Scheduled

/-!
# Listing by offset

A server that hands out a list in pages, where the token of a page is the number of entries before
it.  How many entries it puts on a page is left to the server.  A client visits the entries page
after page and may stop early.  On a list that does not change, the pages cannot be told from the
list: the client gets what a single visit of the whole list gives.
-/

namespace MayastorExtensions.OffsetPages

open Scheduled

variable {σ ι o ε α β γ : Type}

/-! ## Pages -/

/-- The pages of a list, each with the token of the next one if there is one: a page has the entries
that follow its token, the one without a next token has the rest of them, and one with a next token
is not empty. -/
structure Pages (items : List α) (pageAt : ℕ → List α × Option ℕ) : Prop where
  entries (token : ℕ) : (pageAt token).1 <+: items.drop token
  last (token : ℕ) : (pageAt token).2 = none → (pageAt token).1 = items.drop token
  next (token following : ℕ) : (pageAt token).2 = some following →
    following = token + (pageAt token).1.length ∧ (pageAt token).1 ≠ []

/-- A server that hands out lists in pages, asked for with a number of entries. -/
structure Paging (α : Type) where
  page : ℕ → List α → ℕ → List α × Option ℕ
  pages : ∀ limit, 0 < limit → ∀ items, Pages items (page limit items)

section Pages

variable {items : List α} {pageAt : ℕ → List α × Option ℕ} {token following : ℕ}

theorem Pages.take_append (hpages : Pages items pageAt) (token : ℕ) :
    items.take token ++ (pageAt token).1 = items.take (token + (pageAt token).1.length) := by
  have hentries := List.prefix_iff_eq_take.mp (hpages.entries token)
  rw [List.take_add, ← hentries]

theorem Pages.take_of_last (hpages : Pages items pageAt) (h : (pageAt token).2 = none) :
    items.take (token + (pageAt token).1.length) = items := by
  rw [← hpages.take_append, hpages.last token h, List.take_append_drop]

theorem Pages.next_bounds (hpages : Pages items pageAt) (h : (pageAt token).2 = some following) :
    following = token + (pageAt token).1.length ∧ token < following ∧
      following ≤ items.length := by
  obtain ⟨hfollowing, hne⟩ := hpages.next token following h
  have hpos := List.length_pos_iff.mpr hne
  have hlength := (hpages.entries token).length_le
  rw [List.length_drop] at hlength
  exact ⟨hfollowing, by omega, by omega⟩

end Pages

/-- As many entries on a page as are asked for. -/
def fullPage (limit : ℕ) (items : List α) (token : ℕ) : List α × Option ℕ :=
  ((items.drop token).take limit,
    if token + limit < items.length then some (token + limit) else none)

theorem pages_fullPage {limit : ℕ} (hlimit : 0 < limit) (items : List α) :
    Pages items (fullPage limit items) where
  entries token := List.take_prefix limit _
  last token h := by
    simp only [fullPage] at h ⊢
    split at h
    next => cases h
    next hlast =>
      refine List.take_of_length_le ?_
      rw [List.length_drop]
      omega
  next token following h := by
    simp only [fullPage] at h ⊢
    split at h
    next hmore =>
      have hlength : ((items.drop token).take limit).length = limit := by
        rw [List.length_take, List.length_drop]
        omega
      refine ⟨by rw [← Option.some.inj h, hlength], ?_⟩
      rw [← List.length_pos_iff, hlength]
      exact hlimit
    next => cases h

/-- The server that fills its pages. -/
def Paging.full (α : Type) : Paging α where
  page := fullPage
  pages _ hlimit items := pages_fullPage hlimit items

/-! ## Collecting -/

/-- The loop of a client that keeps all entries, one unit of fuel a request, from what it has
collected before. -/
def readPages (ask : ℕ → Except ε (List α × Option ℕ)) :
    ℕ → ℕ → List α → Option (Except ε (List α))
  | 0, _, _ => none
  | fuel + 1, token, collected =>
    match ask token with
    | .error error => some (.error error)
    | .ok page =>
      match page.2 with
      | none => some (.ok (collected ++ page.1))
      | some next => readPages ask fuel next (collected ++ page.1)

/-- The answers to the requests of a client are the pages of a list. -/
def Lists (ask : ℕ → Except ε (List α × Option ℕ)) (items : List α) : Prop :=
  ∃ pageAt, Pages items pageAt ∧ ∀ token, ask token = .ok (pageAt token)

/-- A list that does not change is read as a whole. -/
theorem readPages_eq {ask : ℕ → Except ε (List α × Option ℕ)} {items : List α}
    (hask : Lists ask items) {fuel : ℕ} (hfuel : items.length < fuel) :
    readPages ask fuel 0 [] = some (.ok items) := by
  obtain ⟨pageAt, hpages, hask⟩ := hask
  have hfrom : ∀ fuel token, items.length - token < fuel →
      readPages ask fuel token (items.take token) = some (.ok items) := by
    intro fuel
    induction fuel with
    | zero => exact fun _ hnone ↦ absurd hnone (Nat.not_lt_zero _)
    | succ fuel ih =>
      intro token hleft
      simp only [readPages, hask, hpages.take_append]
      cases hnext : (pageAt token).2 with
      | none => rw [hpages.take_of_last hnext]
      | some following =>
        obtain ⟨hfollowing, hmore, hbound⟩ := hpages.next_bounds hnext
        rw [← hfollowing]
        exact ih following (by omega)
  exact hfrom fuel 0 (by omega)

/-! ## Visiting -/

/-- Visit the entries in order; an error is the result of a visit that stops early. -/
def visitAll (visit : β → α → Except γ β) (finish : β → γ) (start : β) (items : List α) : γ :=
  match items.foldlM visit start with
  | .error result => result
  | .ok final => finish final

/-- One round of the loop: a page is asked for and visited. -/
def visitPage (ask : ℕ → Program σ ι o ε (List α × Option ℕ)) (visit : β → α → Except γ β)
    (finish : β → γ) (position : β × ℕ) : Program σ ι o ε ((β × ℕ) ⊕ γ) := do
  let page ← ask position.2
  match page.1.foldlM visit position.1 with
  | .error result => pure (.inr result)
  | .ok current =>
    match page.2 with
    | some next => pure (.inl (current, next))
    | none => pure (.inr (finish current))

/-- The loop of the client. -/
def visitPages (ask : ℕ → Program σ ι o ε (List α × Option ℕ)) (visit : β → α → Except γ β)
    (finish : β → γ) (start : β) : Program σ ι o ε γ :=
  Program.loop (visitPage ask visit finish) (start, 0)

section Serves

variable {ask : ℕ → Program σ ι o ε (List α × Option ℕ)} {visit : β → α → Except γ β}
  {finish : β → γ} {state : σ} {items : List α} {pageAt : ℕ → List α × Option ℕ}

/-- The visit of a page continues the visit of what came before it. -/
theorem foldlM_page (hpages : Pages items pageAt) {start current : β} {token : ℕ}
    (h : (items.take token).foldlM visit start = .ok current) :
    (pageAt token).1.foldlM visit current =
      (items.take (token + (pageAt token).1.length)).foldlM visit start := by
  rw [← hpages.take_append, List.foldlM_append, h]
  rfl

/-- A visit that stops early stops before the rest of the list. -/
theorem foldlM_of_take_error {start : β} {bound : ℕ} {result : γ}
    (h : (items.take bound).foldlM visit start = .error result) :
    items.foldlM visit start = .error result := by
  rw [← List.take_append_drop bound items, List.foldlM_append, h]
  rfl

variable (hpages : Pages items pageAt)
  (hask : ∀ token, Serves 1 (ask token) state (.ok (pageAt token)) state)

include hpages hask

theorem visitPage_stops {start current : β} {token : ℕ} {result : γ}
    (h : (items.take token).foldlM visit start = .ok current)
    (hstop : (items.take (token + (pageAt token).1.length)).foldlM visit start = .error result) :
    Serves 1 (visitPage ask visit finish (current, token)) state
      (.ok (.inr (visitAll visit finish start items))) state := by
  have hvisit : visitAll visit finish start items = result := by
    rw [visitAll, foldlM_of_take_error hstop]
  rw [visitPage, ← Nat.zero_add 1]
  refine (hask token).bind ?_
  rw [foldlM_page hpages h, hstop, hvisit]
  exact Serves.pure _

theorem visitPage_last {start current final : β} {token : ℕ}
    (h : (items.take token).foldlM visit start = .ok current)
    (hgoes : (items.take (token + (pageAt token).1.length)).foldlM visit start = .ok final)
    (hlast : (pageAt token).2 = none) :
    Serves 1 (visitPage ask visit finish (current, token)) state
      (.ok (.inr (visitAll visit finish start items))) state := by
  have hvisit : visitAll visit finish start items = finish final := by
    rw [hpages.take_of_last hlast] at hgoes
    rw [visitAll, hgoes]
  rw [visitPage, ← Nat.zero_add 1]
  refine (hask token).bind ?_
  rw [foldlM_page hpages h, hgoes, hlast, hvisit]
  exact Serves.pure _

theorem visitPage_next {start current final : β} {token following : ℕ}
    (h : (items.take token).foldlM visit start = .ok current)
    (hgoes : (items.take (token + (pageAt token).1.length)).foldlM visit start = .ok final)
    (hnext : (pageAt token).2 = some following) :
    Serves 1 (visitPage ask visit finish (current, token)) state
      (.ok (.inl (final, following))) state := by
  rw [visitPage, ← Nat.zero_add 1]
  refine (hask token).bind ?_
  rw [foldlM_page hpages h, hgoes, hnext]
  exact Serves.pure _

/-- A list that does not change is visited as a whole, in finitely many requests. -/
theorem visitPages_serves (start : β) :
    ∃ cost, Serves cost (visitPages ask visit finish start) state
      (.ok (visitAll visit finish start items)) state := by
  -- Induction on the entries that are still to come, for the loop at any position.
  have hrounds : ∀ left token current, items.length - token ≤ left →
      (items.take token).foldlM visit start = .ok current →
        ∃ rounds, 1 ≤ rounds ∧ ∀ fuel, rounds ≤ fuel →
          Serves rounds (Program.iterate (visitPage ask visit finish) fuel (current, token)) state
            (.ok (visitAll visit finish start items)) state := by
    intro left
    induction left with
    | zero =>
      intro token current hleft hcurrent
      refine ⟨1, Nat.le_refl _, fun fuel hfuel ↦ Serves.iterate_done ?_ hfuel⟩
      cases hgoes : (items.take (token + (pageAt token).1.length)).foldlM visit start with
      | error result => exact visitPage_stops hpages hask hcurrent hgoes
      | ok final =>
        cases hnext : (pageAt token).2 with
        | none => exact visitPage_last hpages hask hcurrent hgoes hnext
        | some following => exact absurd (hpages.next_bounds hnext) (by omega)
    | succ left ih =>
      intro token current hleft hcurrent
      cases hgoes : (items.take (token + (pageAt token).1.length)).foldlM visit start with
      | error result =>
        exact ⟨1, Nat.le_refl _, fun fuel hfuel ↦
          Serves.iterate_done (visitPage_stops hpages hask hcurrent hgoes) hfuel⟩
      | ok final =>
        cases hnext : (pageAt token).2 with
        | none =>
          exact ⟨1, Nat.le_refl _, fun fuel hfuel ↦
            Serves.iterate_done (visitPage_last hpages hask hcurrent hgoes hnext) hfuel⟩
        | some following =>
          obtain ⟨hfollowing, hmore, -⟩ := hpages.next_bounds hnext
          have hfinal : (items.take following).foldlM visit start = .ok final := by
            rw [hfollowing]
            exact hgoes
          obtain ⟨rounds, hpos, hserves⟩ := ih following final (by omega) hfinal
          refine ⟨rounds + 1, by omega, fun fuel hfuel ↦ ?_⟩
          obtain ⟨rest, rfl⟩ : ∃ rest, fuel = rest + 1 := ⟨fuel - 1, by omega⟩
          exact Serves.iterate_next (visitPage_next hpages hask hcurrent hgoes hnext)
            (hserves rest (by omega))
  obtain ⟨rounds, hpos, hserves⟩ := hrounds _ 0 start (Nat.le_refl _) rfl
  exact ⟨rounds, Serves.loop hserves (Nat.le_refl _)⟩

end Serves

end MayastorExtensions.OffsetPages
