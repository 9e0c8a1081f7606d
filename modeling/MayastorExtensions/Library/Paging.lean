import Mathlib.Data.List.Basic

/-!
# Listing by pages

A server that hands out a list in pages: every page but the last carries a token for the next one,
and the last page has none or an empty one.  An empty token in a request asks for the first page, as
no token does.

The client's loop asks for page after page with the token it got last.  It runs on fuel, one unit a
request.  A loop that also stops on an empty token reads every such list to its end; one that only
stops without a token starts over on an empty one, and never returns.
-/

namespace MayastorExtensions.Paging

variable {α β ε ε' : Type}

/-- One answer of the server. -/
structure ObjectList (α : Type) where
  items : List α
  continue_ : Option String

/-- What a client makes of the pages: what it keeps of an item, at which tokens it stops, and what
it answers when a request fails. -/
structure Client (α β ε ε' : Type) where
  select : α → Option β
  stops : String → Bool
  fail : ε → Except ε' (List β)

/-- The loop of a client, from a request and what was collected before it. -/
def Client.collect (client : Client α β ε ε') (list : Option String → Except ε (ObjectList α)) :
    ℕ → Option String → List β → Option (Except ε' (List β))
  | 0, _, _ => none
  | fuel + 1, token, collected =>
    match list token with
    | .error error => some (client.fail error)
    | .ok page =>
      let collected := collected ++ page.items.filterMap client.select
      match page.continue_ with
      | none => some (.ok collected)
      | some next =>
        if client.stops next then some (.ok collected)
        else client.collect list fuel (some next) collected

/-- From a request on, the server answers with the given pages and then with the last one. -/
def Follows (list : Option String → Except ε (ObjectList α)) (last : ObjectList α) :
    Option String → List (List α × String) → Prop
  | token, [] => list token = .ok last
  | token, (items, next) :: rest =>
    list token = .ok ⟨items, some next⟩ ∧ Follows list last (some next) rest

/-- A list that is served in pages. -/
structure Listing (α ε : Type) where
  list : Option String → Except ε (ObjectList α)
  front : List (List α × String)
  last : ObjectList α
  follows : Follows list last none front
  tokens : ∀ page ∈ front, page.2 ≠ ""
  ends : last.continue_ = none ∨ last.continue_ = some ""
  restarts : list (some "") = list none

namespace Listing

/-- All items, page after page. -/
def items (listing : Listing α ε) : List α :=
  listing.front.flatMap Prod.fst ++ listing.last.items

def pageCount (listing : Listing α ε) : ℕ := listing.front.length + 1

end Listing

/-- A loop that returns the expected result after no more requests than the list has pages. -/
def Reads (listing : Listing α ε) (expected : List β) (loop : ℕ → Option (Except ε' (List β))) :
    Prop :=
  ∀ fuel, listing.pageCount ≤ fuel → loop fuel = some (.ok expected)

variable {client : Client α β ε ε'} {list : Option String → Except ε (ObjectList α)}
  {last : ObjectList α} {front : List (List α × String)} {token : Option String}

theorem follows_congr {token' : Option String} (htoken : list token' = list token)
    (h : Follows list last token front) : Follows list last token' front := by
  cases front with
  | nil => exact htoken.trans h
  | cons page rest => exact ⟨htoken.trans h.1, h.2⟩

theorem collect_next {items : List α} {next : String} (h : list token = .ok ⟨items, some next⟩)
    (hgoes : client.stops next = false) (fuel : ℕ) (collected : List β) :
    client.collect list (fuel + 1) token collected =
      client.collect list fuel (some next) (collected ++ items.filterMap client.select) := by
  simp [Client.collect, h, hgoes]

theorem collect_last (h : list token = .ok last)
    (hstops : ∀ next, last.continue_ = some next → client.stops next) (fuel : ℕ)
    (collected : List β) :
    client.collect list (fuel + 1) token collected =
      some (.ok (collected ++ last.items.filterMap client.select)) := by
  cases hnext : last.continue_ with
  | none => simp [Client.collect, h, hnext]
  | some next => simp [Client.collect, h, hnext, hstops next hnext]

/-- A client that stops at the last page and at no other returns everything. -/
theorem collect_of_stops (hfront : ∀ page ∈ front, client.stops page.2 = false)
    (hlast : ∀ next, last.continue_ = some next → client.stops next)
    (h : Follows list last token front) {fuel : ℕ} (hfuel : front.length + 1 ≤ fuel)
    (collected : List β) :
    client.collect list fuel token collected =
      some (.ok (collected ++ (front.flatMap Prod.fst ++ last.items).filterMap client.select)) := by
  induction front generalizing token fuel collected with
  | nil =>
    obtain ⟨fuel, rfl⟩ := Nat.exists_eq_add_of_le' hfuel
    exact collect_last h hlast fuel collected
  | cons page rest ih =>
    rw [List.forall_mem_cons] at hfront
    rw [List.length_cons] at hfuel
    obtain ⟨spare, rfl⟩ : ∃ spare, fuel = spare + 1 := Nat.exists_eq_add_of_le' (by omega)
    rw [collect_next h.1 hfront.1, ih hfront.2 h.2 (by omega), List.append_assoc,
      List.flatMap_cons, List.append_assoc, ← List.filterMap_append]

/-- A client that goes on after an empty token starts over, again and again. -/
theorem collect_of_restarts (hgoes : ∀ next, client.stops next = false)
    {first : List (List α × String)} (hfirst : Follows list last none first)
    (hrestarts : list (some "") = list none) (hlast : last.continue_ = some "")
    (h : Follows list last token front) (fuel : ℕ) (collected : List β) :
    client.collect list fuel token collected = none := by
  induction fuel generalizing token front collected with
  | zero => rfl
  | succ fuel ih =>
    cases front with
    | nil =>
      have hpage : list token = .ok ⟨last.items, some ""⟩ := by
        rw [← hlast]
        exact h
      rw [collect_next hpage (hgoes "")]
      exact ih (follows_congr hrestarts hfirst) _
    | cons page rest =>
      rw [collect_next h.1 (hgoes page.2)]
      exact ih h.2 _

variable {listing : Listing α ε} {expected : List β}

/-- A client that stops at empty tokens alone reads every list. -/
theorem reads_of_stops_empty (hstops : ∀ next, client.stops next ↔ next = "")
    (hlist : list = listing.list) (hexpected : listing.items.filterMap client.select = expected) :
    Reads listing expected fun fuel ↦ client.collect list fuel none [] := by
  subst hlist hexpected
  intro fuel hfuel
  refine collect_of_stops ?_ ?_ listing.follows hfuel []
  · intro page hpage
    rw [Bool.eq_false_iff, ne_eq, hstops]
    exact listing.tokens page hpage
  · intro next hnext
    rw [hstops]
    rcases listing.ends with hnone | hempty
    · rw [hnone] at hnext
      cases hnext
    · rw [hempty] at hnext
      exact (Option.some.inj hnext).symm

/-- A client that stops at no token reads a list exactly if it ends without one; otherwise it makes
requests forever. -/
theorem reads_iff_of_never_stops (hgoes : ∀ next, client.stops next = false)
    (hlist : list = listing.list) (hexpected : listing.items.filterMap client.select = expected) :
    (Reads listing expected fun fuel ↦ client.collect list fuel none []) ↔
      listing.last.continue_ = none := by
  subst hlist hexpected
  constructor
  · intro hreads
    by_contra htoken
    have hempty := listing.ends.resolve_left htoken
    have hloop : client.collect listing.list listing.pageCount none [] = _ :=
      hreads listing.pageCount (Nat.le_refl _)
    rw [collect_of_restarts hgoes listing.follows listing.restarts hempty listing.follows] at hloop
    cases hloop
  · intro hnone fuel hfuel
    refine collect_of_stops (fun page _ ↦ hgoes page.2) ?_ listing.follows hfuel []
    intro next hnext
    rw [hnone] at hnext
    cases hnext

/-- Whatever such a client returns is the whole list. -/
theorem eq_ok_of_collect (hgoes : ∀ next, client.stops next = false) {fuel : ℕ}
    {result : Except ε' (List β)} (h : client.collect listing.list fuel none [] = some result) :
    result = .ok (listing.items.filterMap client.select) := by
  rcases listing.ends with hnone | hempty
  · suffices hfollows : ∀ front token, Follows listing.list listing.last token front →
        ∀ fuel collected, client.collect listing.list fuel token collected = some result →
          result = .ok (collected ++
            (front.flatMap Prod.fst ++ listing.last.items).filterMap client.select) from
      hfollows listing.front none listing.follows fuel [] h
    intro front
    induction front with
    | nil =>
      intro token hfollows fuel collected hresult
      cases fuel with
      | zero => cases hresult
      | succ fuel =>
        rw [collect_last hfollows (fun next hnext ↦ by rw [hnone] at hnext; cases hnext)] at hresult
        exact (Option.some.inj hresult).symm
    | cons page rest ih =>
      intro token hfollows fuel collected hresult
      cases fuel with
      | zero => cases hresult
      | succ fuel =>
        rw [collect_next hfollows.1 (hgoes page.2)] at hresult
        rw [ih _ hfollows.2 fuel _ hresult, List.append_assoc, List.flatMap_cons,
          List.append_assoc, ← List.filterMap_append]
  · rw [collect_of_restarts hgoes listing.follows listing.restarts hempty listing.follows] at h
    cases h

end MayastorExtensions.Paging
