import SqlBuilder.Value
import Mathlib

/-!
# Courses of a walk

The rows of a ledger are told apart by whole numbers of either sign. Behind a number lie the keys
that are greater, and behind an absent cursor lies none, since nothing compares with it. A walk goes
from the last row of a page to the page behind what that row shows, and it ends at an empty page. It
may find another ledger at each page, because rows come and go in the meantime.

Where the last row of each page shows its key, the cursor only grows. So no key is met twice, and a
key that is in every ledger is met, for no page passes it over. Where the rows show nothing, the
page that follows on the first one is empty, however many rows are left.
-/

namespace SqlBuilder

structure Ledger where
  keys : Finset Int
  row : Int → Value
  /-- Whether a key is greater than a cursor that is neither a whole number nor absent. -/
  exceeds : Int → Value → Bool

namespace Ledger

variable (ledger : Ledger) (cursor : Value) (size : Nat)

def isBehind (key : Int) : Bool :=
  match cursor with
  | .null => false
  | .int number => number < key
  | cursor => ledger.exceeds key cursor

def behind : List Int :=
  (ledger.keys.filter fun key => ledger.isBehind cursor key).sort

def page : List Int :=
  (ledger.behind cursor).take size

variable {ledger cursor size} {key number last : Int}

theorem mem_behind :
    key ∈ ledger.behind cursor ↔ key ∈ ledger.keys ∧ ledger.isBehind cursor key := by
  rw [behind, Finset.mem_sort, Finset.mem_filter]

theorem sortedLT_behind : (ledger.behind cursor).SortedLT :=
  Finset.sortedLT_sort _

theorem mem_behind_int : key ∈ ledger.behind (.int number) ↔ key ∈ ledger.keys ∧ number < key := by
  rw [mem_behind, isBehind, decide_eq_true_iff]

/-- No key compares with an absent cursor. -/
theorem behind_null : ledger.behind .null = [] := by
  refine List.eq_nil_iff_forall_not_mem.2 fun key hkey => ?_
  exact Bool.false_ne_true (mem_behind.1 hkey).2

theorem behind_int : ledger.behind (.int number) = (ledger.keys.filter (number < ·)).sort := by
  simp [behind, isBehind]

theorem behind_zero (h : ∀ key ∈ ledger.keys, 0 < key) :
    ledger.behind (.int 0) = ledger.keys.sort := by
  rw [behind_int, Finset.filter_true_of_mem h]

/-- The first keys of a ledger are all of them if it is no longer than that. -/
theorem forall_mem_take_iff (keys : Finset Int) (size : Nat) :
    (∀ key ∈ keys, key ∈ keys.sort.take size) ↔ keys.card ≤ size := by
  constructor
  · intro hall
    have hsubset : keys ⊆ (keys.sort.take size).toFinset :=
      fun key hkey => List.mem_toFinset.2 (hall key hkey)
    have hcard := (Finset.card_le_card hsubset).trans (List.toFinset_card_le _)
    exact hcard.trans (List.length_take_le _ _)
  · intro hcard key hkey
    have hlength : keys.sort.length ≤ size := by rwa [Finset.length_sort]
    rwa [List.take_of_length_le hlength, Finset.mem_sort]

/-! ### Pages -/

theorem mem_behind_of_mem_page (h : key ∈ ledger.page cursor size) : key ∈ ledger.behind cursor :=
  List.mem_of_mem_take h

theorem mem_of_mem_page (h : key ∈ ledger.page cursor size) : key ∈ ledger.keys :=
  (mem_behind.1 (mem_behind_of_mem_page h)).1

theorem pairwise_page : (ledger.page cursor size).Pairwise (· < ·) :=
  sortedLT_behind.pairwise.sublist (List.take_sublist _ _)

theorem length_page_le : (ledger.page cursor size).length ≤ size :=
  List.length_take_le _ _

theorem behind_eq_nil (hsize : 1 ≤ size) (h : ledger.page cursor size = []) :
    ledger.behind cursor = [] :=
  (List.take_eq_nil_iff.1 h).resolve_left (Nat.ne_of_gt hsize)

theorem le_last (hlast : (ledger.page cursor size).getLast? = some last)
    (h : key ∈ ledger.page cursor size) : key ≤ last := by
  obtain ⟨front, hfront⟩ := List.getLast?_eq_some_iff.1 hlast
  have hpairwise : (ledger.page cursor size).Pairwise (· < ·) := pairwise_page
  rw [hfront] at h hpairwise
  rcases List.mem_append.1 h with hmem | hmem
  · exact ((List.pairwise_append.1 hpairwise).2.2 key hmem last List.mem_cons_self).le
  · exact (List.mem_singleton.1 hmem).le

/-- What a page leaves out lies behind its last key. -/
theorem mem_page_or_last_lt (hlast : (ledger.page cursor size).getLast? = some last)
    (hkey : key ∈ ledger.behind cursor) : key ∈ ledger.page cursor size ∨ last < key := by
  have hpairwise : (ledger.behind cursor).Pairwise (· < ·) := sortedLT_behind.pairwise
  rw [← List.take_append_drop size (ledger.behind cursor)] at hkey hpairwise
  rcases List.mem_append.1 hkey with hpage | hrest
  · exact .inl hpage
  · exact .inr ((List.pairwise_append.1 hpairwise).2.2 last (List.mem_of_getLast? hlast) key hrest)

/-! ### Courses -/

/-- The pages of a walk that finds one ledger after the other. It has come to a cursor after
`number` pages, and `next` is the cursor behind the row under a key. -/
inductive Course (ledgers : Nat → Ledger) (size : Nat) (next : Int → Value) :
    Nat → Value → List (List Int) → Prop where
  | done {number : Nat} {cursor : Value} (h : (ledgers number).page cursor size = []) :
      Course ledgers size next number cursor []
  | page {number : Nat} {cursor : Value} {last : Int} {pages : List (List Int)}
      (hlast : ((ledgers number).page cursor size).getLast? = some last)
      (hrest : Course ledgers size next (number + 1) (next last) pages) :
      Course ledgers size next number cursor ((ledgers number).page cursor size :: pages)

namespace Course

variable {ledgers : Nat → Ledger} {number : Nat} {next : Int → Value}
  {pages others : List (List Int)} {start : Int}

theorem unique (h : Course ledgers size next number cursor pages)
    (hother : Course ledgers size next number cursor others) : pages = others := by
  induction h generalizing others with
  | done hempty =>
      cases hother with
      | done _ => rfl
      | page hlast _ => rw [hempty] at hlast; cases hlast
  | page hlast _ ih =>
      cases hother with
      | done hempty => rw [hempty] at hlast; cases hlast
      | page hother hrest =>
          rw [hlast] at hother
          cases hother
          rw [ih hrest]

theorem exists_ledger (h : Course ledgers size next number cursor pages) {page : List Int}
    (hpage : page ∈ pages) : ∃ seen, ∀ key ∈ page, key ∈ (ledgers seen).keys := by
  induction h with
  | done _ => cases hpage
  | page _ _ ih =>
      rcases List.mem_cons.1 hpage with rfl | hrest
      · exact ⟨_, fun _ => mem_of_mem_page⟩
      · exact ih hrest

/-- The last row of each page shows its key. -/
def Led (next : Int → Value) (pages : List (List Int)) : Prop :=
  ∀ page ∈ pages, ∀ last, page.getLast? = some last → next last = .int last

theorem led (h : Course ledgers size next number cursor pages)
    (hnext : ∀ number, ∀ key ∈ (ledgers number).keys, next key = .int key) : Led next pages := by
  intro page hpage last hlast
  obtain ⟨seen, hseen⟩ := h.exists_ledger hpage
  exact hnext seen last (hseen last (List.mem_of_getLast? hlast))

theorem pairwise (h : Course ledgers size next number (.int start) pages) (hled : Led next pages) :
    (start :: pages.flatten).Pairwise (· < ·) := by
  generalize hcursor : Value.int start = cursor at h
  induction h generalizing start with
  | done _ => exact List.pairwise_singleton _ _
  | @page number cursor last pages hlast _ ih =>
      subst hcursor
      obtain ⟨hfirst, hrest⟩ := List.forall_mem_cons.1 hled
      obtain ⟨hbehind, hsorted⟩ := List.pairwise_cons.1 (ih hrest (hfirst last hlast).symm)
      have hstart : ∀ key ∈ (ledgers number).page (.int start) size, start < key :=
        fun key hkey => (mem_behind_int.1 (mem_behind_of_mem_page hkey)).2
      rw [List.flatten_cons, List.pairwise_cons, List.pairwise_append]
      refine ⟨?_, pairwise_page, hsorted, ?_⟩
      · intro key hkey
        rcases List.mem_append.1 hkey with hkey | hkey
        · exact hstart key hkey
        · exact (hstart last (List.mem_of_getLast? hlast)).trans (hbehind key hkey)
      · intro key hkey other hother
        exact (le_last hlast hkey).trans_lt (hbehind other hother)

/-- A key that is in every ledger behind the cursor is on a page. -/
theorem mem_flatten (hsize : 1 ≤ size) (h : Course ledgers size next number (.int start) pages)
    (hled : Led next pages) {key : Int} (hstart : start < key)
    (hseen : ∀ seen, number ≤ seen → seen ≤ number + pages.length → key ∈ (ledgers seen).keys) :
    key ∈ pages.flatten := by
  generalize hcursor : Value.int start = cursor at h
  induction h generalizing start with
  | @done number cursor hempty =>
      subst hcursor
      have hkey := mem_behind_int.2 ⟨hseen number le_rfl (Nat.le_add_right _ _), hstart⟩
      rw [behind_eq_nil hsize hempty] at hkey
      cases hkey
  | @page number cursor last pages hlast _ ih =>
      subst hcursor
      obtain ⟨hfirst, hrest⟩ := List.forall_mem_cons.1 hled
      have hkey := mem_behind_int.2 ⟨hseen number le_rfl (Nat.le_add_right _ _), hstart⟩
      rw [List.flatten_cons, List.mem_append]
      rcases mem_page_or_last_lt hlast hkey with hpage | hbehind
      · exact .inl hpage
      · refine .inr (ih hrest hbehind ?_ (hfirst last hlast).symm)
        intro seen hfrom hto
        exact hseen seen (by omega) (by rw [List.length_cons]; omega)

/-- In a ledger that does not change, a course comes to everything behind a number. -/
theorem flatten_eq {ledger : Ledger} (hsize : 1 ≤ size)
    (h : Course (fun _ => ledger) size next number (.int start) pages) (hled : Led next pages) :
    pages.flatten = ledger.behind (.int start) := by
  obtain ⟨hstart, hsorted⟩ := List.pairwise_cons.1 (h.pairwise hled)
  refine List.SortedLT.eq_of_mem_iff hsorted.sortedLT sortedLT_behind fun key => ?_
  rw [mem_behind_int]
  constructor
  · intro hkey
    obtain ⟨page, hpage, hmem⟩ := List.mem_flatten.1 hkey
    obtain ⟨_, hkeys⟩ := h.exists_ledger hpage
    exact ⟨hkeys key hmem, hstart key hkey⟩
  · rintro ⟨hkey, hbehind⟩
    exact h.mem_flatten hsize hled hbehind fun _ _ _ => hkey

theorem card_greater_lt {all : Finset Int} (hstart : start < last) (hlast : last ∈ all) :
    (all.filter (last < ·)).card < (all.filter (start < ·)).card := by
  refine Finset.card_lt_card (Finset.ssubset_iff_of_subset ?_ |>.2 ⟨last, ?_, ?_⟩)
  · exact Finset.monotone_filter_right _ fun _ _ hbehind => hstart.trans hbehind
  · exact Finset.mem_filter.2 ⟨hlast, hstart⟩
  · exact fun hitself => lt_irrefl last (Finset.mem_filter.1 hitself).2

/-- Rows that show their keys lead on until the ledgers have nothing more behind the cursor. The
induction is on how many keys of all ledgers together are left. -/
theorem exists_of_shown {all : Finset Int} (hall : ∀ number, (ledgers number).keys ⊆ all)
    (hnext : ∀ number, ∀ key ∈ (ledgers number).keys, next key = .int key) (number : Nat)
    (start : Int) : ∃ pages, Course ledgers size next number (.int start) pages ∧
      pages.length ≤ (all.filter (start < ·)).card := by
  induction hleft : (all.filter (start < ·)).card using Nat.strongRecOn
    generalizing number start with
  | ind left ih =>
      cases hlast : ((ledgers number).page (.int start) size).getLast? with
      | none => exact ⟨[], .done (List.getLast?_eq_none_iff.1 hlast), Nat.zero_le _⟩
      | some last =>
          have hmem := mem_behind_of_mem_page (List.mem_of_getLast? hlast)
          obtain ⟨hkey, hstart⟩ := mem_behind_int.1 hmem
          have hfewer := hleft ▸ card_greater_lt hstart (hall number hkey)
          obtain ⟨pages, hcourse, hlength⟩ := ih _ hfewer (number + 1) last rfl
          rw [← hnext number last hkey] at hcourse
          exact ⟨_, .page hlast hcourse, hlength.trans_lt hfewer⟩

/-- Rows that show nothing lead no further than through one page. -/
theorem exists_of_hidden
    (hnext : ∀ number, ∀ key ∈ (ledgers number).keys, next key = .null) (number : Nat)
    (cursor : Value) : ∃ pages, Course ledgers size next number cursor pages ∧
      pages.flatten = (ledgers number).page cursor size ∧
      pages.length ≤ (ledgers number).keys.card := by
  cases hlast : ((ledgers number).page cursor size).getLast? with
  | none =>
      have hempty : (ledgers number).page cursor size = [] := List.getLast?_eq_none_iff.1 hlast
      exact ⟨[], .done hempty, hempty.symm, Nat.zero_le _⟩
  | some last =>
      have hkey := mem_of_mem_page (List.mem_of_getLast? hlast)
      have hnull : (ledgers (number + 1)).page .null size = [] := by
        rw [Ledger.page, behind_null, List.take_nil]
      have hrest : Course ledgers size next (number + 1) (next last) [] := by
        rw [hnext number last hkey]
        exact .done hnull
      exact ⟨_, .page hlast hrest, List.flatten_singleton, Finset.card_pos.2 ⟨last, hkey⟩⟩

end Course

end Ledger

end SqlBuilder
