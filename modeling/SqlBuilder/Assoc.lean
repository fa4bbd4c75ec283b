/-!
# Association lists

Tables whose order matters: the entries stand in the order in which their keys first came, and
giving a key a new value leaves it in its place. Maps, the clauses of a blueprint, the registry and
the log streams are all kept this way.
-/

namespace SqlBuilder.Assoc

variable {α β : Type} [BEq α]

def find? (entries : List (α × β)) (key : α) : Option β :=
  (entries.find? fun entry => entry.1 == key).map Prod.snd

/-- Gives a key a value, in the place of its former value or else at the end. -/
def place (entries : List (α × β)) (key : α) (value : β) : List (α × β) :=
  match entries with
  | [] => [(key, value)]
  | entry :: rest =>
      if entry.1 == key then (entry.1, value) :: rest else entry :: place rest key value

theorem find?_place [LawfulBEq α] (entries : List (α × β)) (key other : α) (value : β) :
    find? (place entries key value) other =
      if key == other then some value else find? entries other := by
  induction entries with
  | nil => by_cases h : key == other <;> simp [find?, place, h]
  | cons entry rest ih =>
      simp only [find?, place] at ih ⊢
      by_cases hkey : entry.1 == key
      · by_cases hother : key == other
        · simp_all
        · have hne : (entry.1 == other) = false := by
            rw [eq_of_beq hkey]
            simpa using hother
          simp [hkey, hother, hne]
      · by_cases hother : entry.1 == other
        · have hne : (key == other) = false := by
            rw [← eq_of_beq hother]
            simp only [beq_eq_false_iff_ne, ne_eq]
            intro h
            exact hkey (by rw [h]; exact BEq.rfl)
          simp [hkey, hother, hne]
        · simp [hkey, hother, ih]

/-- The last value of a key counts, and the key keeps its place. -/
theorem place_place [LawfulBEq α] (entries : List (α × β)) (key : α) (value last : β) :
    place (place entries key value) key last = place entries key last := by
  induction entries with
  | nil => simp [place]
  | cons entry rest ih =>
      simp only [place]
      split
      · next h => simp [place, h]
      · next h => simp [place, h, ih]

theorem place_of_notMem [LawfulBEq α] {entries : List (α × β)} {key : α}
    (h : key ∉ entries.map Prod.fst) (value : β) :
    place entries key value = entries ++ [(key, value)] := by
  induction entries with
  | nil => rfl
  | cons entry rest ih =>
      rw [List.map_cons, List.mem_cons, not_or] at h
      have hother : (entry.1 == key) = false := beq_false_of_ne (Ne.symm h.1)
      rw [place, hother, ih h.2]
      rfl

end SqlBuilder.Assoc
