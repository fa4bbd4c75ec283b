import SqlBuilder.Proofs.Paging.Changing

/-!
# Where a walk begins

The first page of a walk is the one behind zero. So a walk over rows that show their keys hands over
the rows with positive keys, each of them once and in ascending order, and it never comes to the
others.
-/

namespace SqlBuilder

open Outcome Session

variable {κ σ : Type} [Connection κ]

section Unchanging

variable {ledger : Ledger} {feed : Feed κ σ} {session : Session κ σ} {id : Nat} {query : Query}
  {path : String} {size fuel : Nat} {visit : Visit κ σ} {changing : Set Nat}
  {handed : σ → List Visited} {given index : Value}
  (hsize : 1 ≤ size) (hledger : ∀ number, feed.ledgers number = ledger)
  (hgiven : given = .int size ∨ given = .null ∧ query.options.chunkSize = size)
  (hindex : index = .text path ∧ path ≠ "" ∨
    index.truthy = false ∧ query.options.chunkIndex = path)
  (htemplate : session.Template id query path size changing)
  (hserves : feed.Serves query path size) (hvisit : feed.Follows visit changing handed)
  (hreturns : feed.Returns visit) (hshows : feed.shows 0 session)
  (hfuel : ledger.keys.card < fuel)

include hsize hledger hgiven hindex htemplate hserves hvisit hreturns hshows hfuel

theorem Ledger.handsOver_course {next : Int → Value} {keys : List Int}
    (hvalue : ledger.Yields query.model (Identifier.lastSegment path) next)
    (hsingle : ∀ key ∈ ledger.keys, (next key).isSingle = true)
    (hcourse : ∃ pages, Course (fun _ => ledger) size next 0 (.int 0) pages ∧
      pages.flatten = keys ∧ pages.length ≤ ledger.keys.card) :
    ledger.HandsOver query.model handed (chunk fuel id given index visit) session keys := by
  obtain ⟨pages, hcourse, hkeys, hlength⟩ := hcourse
  have hledgers : feed.ledgers = fun _ => ledger := funext hledger
  rw [← hledgers] at hcourse
  obtain ⟨visits, later, hplay, hhanded, hvisits, -⟩ :=
    hserves.exists_chunk hvisit hreturns htemplate (fun number => by rwa [hledger])
      (fun number => by rwa [hledger]) hshows hsize hgiven hindex hcourse (hlength.trans_lt hfuel)
  rw [hledgers] at hvisits
  exact ⟨pages, visits, later, hplay, hhanded, hvisits, hkeys⟩

/-- If all rows show their keys, the rows behind zero are handed over. -/
theorem Ledger.handsOver_shown
    (hvalue : ledger.Yields query.model (Identifier.lastSegment path) .int) :
    ledger.HandsOver query.model handed (chunk fuel id given index visit) session
      (ledger.behind (.int 0)) := by
  have hnext : ∀ number : Nat, ∀ key ∈ ledger.keys, Value.int key = .int key := fun _ _ _ => rfl
  have hexists : ∃ pages, Course (fun _ => ledger) size .int 0 (.int 0) pages ∧
      pages.length ≤ (ledger.keys.filter (0 < ·)).card :=
    Course.exists_of_shown (fun _ => subset_rfl) hnext 0 0
  obtain ⟨pages, hcourse, hlength⟩ := hexists
  exact handsOver_course hsize hledger hgiven hindex htemplate hserves hvisit hreturns hshows hfuel
    hvalue (fun _ _ => rfl)
    ⟨pages, hcourse, hcourse.flatten_eq hsize (hcourse.led hnext),
      hlength.trans (Finset.card_filter_le _ _)⟩

/-- If no row shows anything, those of the first page are handed over. -/
theorem Ledger.handsOver_hidden
    (hvalue : ledger.Yields query.model (Identifier.lastSegment path) fun _ => .null) :
    ledger.HandsOver query.model handed (chunk fuel id given index visit) session
      (ledger.page (.int 0) size) := by
  have hexists : ∃ pages, Course (fun _ => ledger) size (fun _ => .null) 0 (.int 0) pages ∧
      pages.flatten = ledger.page (.int 0) size ∧ pages.length ≤ ledger.keys.card :=
    Course.exists_of_hidden (fun _ _ _ => rfl) 0 (.int 0)
  exact handsOver_course hsize hledger hgiven hindex htemplate hserves hvisit hreturns hshows hfuel
    hvalue (fun _ _ => rfl) hexists

end Unchanging

/-- A walk in chunks over whole numbers of either sign. If the rows show their keys, it hands over
those whose keys are positive, one page after the other, and no others, so that every row comes once
just if none has a key up to zero. -/
theorem Session.chunk_positive {ledger : Ledger} {feed : Feed κ σ}
    {session : Session κ σ} {id : Nat} {query : Query} {path : String} {size fuel : Nat}
    {visit : Visit κ σ} {changing : Set Nat} {handed : σ → List Visited} {given index : Value}
    (hsize : 1 ≤ size)
    (hgiven : given = .int size ∨ given = .null ∧ query.options.chunkSize = size)
    (hindex : index = .text path ∧ path ≠ "" ∨
      index.truthy = false ∧ query.options.chunkIndex = path)
    (htemplate : session.Template id query path size changing)
    (hledger : ∀ number, feed.ledgers number = ledger)
    (hserves : feed.Serves query path size) (hvisit : feed.Follows visit changing handed)
    (hreturns : feed.Returns visit)
    (hvalue : ledger.Yields query.model (Identifier.lastSegment path) .int)
    (hshows : feed.shows 0 session) (hfuel : ledger.keys.card < fuel) :
    ∃ keys : List Int,
      ledger.HandsOver query.model handed (chunk fuel id given index visit) session keys ∧
      keys = (ledger.keys.filter (0 < ·)).sort ∧
      ((∀ key ∈ ledger.keys, keys.count key = 1) ↔ ∀ key ∈ ledger.keys, 0 < key) := by
  have hover := Ledger.handsOver_shown hsize hledger hgiven hindex htemplate hserves hvisit hreturns
    hshows hfuel hvalue
  refine ⟨_, hover, Ledger.behind_int, ?_⟩
  constructor
  · intro hall key hkey
    have hcount : 0 < (ledger.behind (.int 0)).count key := (hall key hkey).symm ▸ Nat.one_pos
    exact (Ledger.mem_behind_int.1 (List.count_pos_iff.1 hcount)).2
  · intro hpositive key hkey
    exact List.count_eq_one_of_mem Ledger.sortedLT_behind.nodup
      (Ledger.mem_behind_int.2 ⟨hkey, hpositive key hkey⟩)

namespace Cabinet

theorem exists_shown {ledger : Ledger} {model : Option Model} {cabinet : Cabinet} {query : Query}
    {action : Action Cabinet (List Visited) Unit} {keys : List Int}
    (h : ledger.HandsOver model (fun visits => visits) action (cabinet.session query) keys)
    (name : String) :
    ∃ later, play action (cabinet.session query) = (.ok (), later) ∧
      Visited.shown later.host name = keys.map (ledger.shown model name) := by
  obtain ⟨pages, visits, later, hplay, hhanded, hvisits, rfl⟩ := h
  have hhost : later.host = visits := hhanded
  refine ⟨later, hplay, ?_⟩
  rw [hhost, hvisits.shown_eq fun _ _ _ => rfl]

/-- The same ledger for all pages, two rows on each. -/
def unchanging (ledger : Ledger) : Cabinet :=
  ⟨fun _ => ledger, 2, 0⟩

theorem ledgers_unchanging (ledger : Ledger) (number : Nat) :
    (unchanging ledger).feed.ledgers number = ledger := rfl

theorem labelled_unchanging (label : String) (keys : Finset Int) :
    (unchanging (.labelled label keys)).IsLabelled label :=
  fun _ => ⟨keys, rfl⟩

theorem sort_eq {keys : Finset Int} {sorted : List Int} (h : keys = sorted.toFinset)
    (hsorted : sorted.Pairwise (· < ·)) : keys.sort = sorted := by
  rw [h]
  exact (List.toFinset_sort _ (hsorted.imp fun hless => hless.ne)).2 (hsorted.imp le_of_lt)

end Cabinet

open Cabinet in
/-- Three of five rows have positive keys. -/
theorem Session.chunk_positive_labelled :
    ∃ later, play (chunk 6 0 (.int 2) .null visit)
        ((unchanging (.labelled "id" {-2, 0, 1, 3, 4})).session everything) = (.ok (), later) ∧
      Visited.shown later.host "id" = [.int 1, .int 3, .int 4] := by
  have hserves := (labelled_unchanging "id" {-2, 0, 1, 3, 4}).serves_everything
  have hfuel : ({-2, 0, 1, 3, 4} : Finset Int).card < 6 := by decide
  obtain ⟨keys, hover, hkeys, _⟩ :=
    Session.chunk_positive (by decide) (given_two everything) (index_null rfl)
      (template_everything _) (ledgers_unchanging _) hserves (follows _) (returns _)
      (yields_everything {-2, 0, 1, 3, 4}) rfl hfuel
  have hpositive : ((Ledger.labelled "id" {-2, 0, 1, 3, 4}).keys.filter (0 < ·)).sort =
      [1, 3, 4] := sort_eq (by decide) (by decide)
  rw [hkeys, hpositive] at hover
  exact exists_shown hover "id"

open Cabinet in
/-- A row under the key zero is passed over: the visits go on, every page is answered from the
table, and the walk returns without having come to it. -/
theorem Session.chunk_passes_zero :
    (unchanging (.labelled "id" {0, 1})).feed.Serves everything "id" 2 ∧
      (unchanging (.labelled "id" {0, 1})).feed.Follows visit ∅ (fun visits => visits) ∧
      0 ∈ (Ledger.labelled "id" {0, 1}).keys ∧
      ∃ later, play (chunk 3 0 (.int 2) .null visit)
          ((unchanging (.labelled "id" {0, 1})).session everything) = (.ok (), later) ∧
        Visited.shown later.host "id" = [.int 1] := by
  have hserves := (labelled_unchanging "id" {0, 1}).serves_everything
  have hfuel : ({0, 1} : Finset Int).card < 3 := by decide
  refine ⟨hserves, follows _, by decide, ?_⟩
  have hover := Ledger.handsOver_shown (by decide) (ledgers_unchanging _) (given_two everything)
    (index_null rfl) (template_everything _) hserves (follows _) (returns _) rfl hfuel
    (yields_everything {0, 1})
  have hpositive : ((Ledger.labelled "id" {0, 1}).keys.filter (0 < ·)).sort = [1] :=
    sort_eq (by decide) (by decide)
  rw [Ledger.behind_int, hpositive] at hover
  exact exists_shown hover "id"

end SqlBuilder
