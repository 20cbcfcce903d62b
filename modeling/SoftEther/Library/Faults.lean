import Mathlib.Data.List.Nodup

/-!
# Computations that may fault

A computation that follows pointers ends in a result or in a fault.  The rules below
show that a computation ends in a result with some property or in one of the faults that
are permitted, step by step.  Objects lie in a table at addresses; a pointer is an
address.
-/

namespace SoftEther
namespace Library

section

variable {Fault α β : Type}

def Ends (permitted : Fault → Prop) (computation : Except Fault α) (property : α → Prop) :
    Prop :=
  match computation with
  | .ok result => property result
  | .error fault => permitted fault

variable {permitted : Fault → Prop}

theorem Ends.ok
    {property : α → Prop}
    {result : α}
    (holds : property result) :
    Ends permitted (.ok result) property :=
  holds

theorem Ends.pure
    {property : α → Prop}
    {result : α}
    (holds : property result) :
    Ends permitted (Pure.pure result) property :=
  holds

theorem Ends.error
    {property : α → Prop}
    {fault : Fault}
    (allowed : permitted fault) :
    Ends permitted (.error fault) property :=
  allowed

theorem Ends.bind
    {computation : Except Fault α}
    {next : α → Except Fault β}
    {middle : α → Prop}
    {property : β → Prop}
    (first : Ends permitted computation middle)
    (rest : ∀ result, middle result → Ends permitted (next result) property) :
    Ends permitted (computation >>= next) property := by
  cases computation with
  | ok result => exact rest result first
  | error fault => exact first

theorem Ends.mono
    {computation : Except Fault α}
    {stronger weaker : α → Prop}
    (ends : Ends permitted computation stronger)
    (implies : ∀ result, stronger result → weaker result) :
    Ends permitted computation weaker := by
  cases computation with
  | ok result => exact implies result ends
  | error fault => exact ends

theorem Ends.permit
    {computation : Except Fault α}
    {property : α → Prop}
    {more : Fault → Prop}
    (ends : Ends permitted computation property)
    (implies : ∀ fault, permitted fault → more fault) :
    Ends more computation property := by
  cases computation with
  | ok result => exact ends
  | error fault => exact implies fault ends

theorem Ends.and
    {computation : Except Fault α}
    {left right : α → Prop}
    (first : Ends permitted computation left)
    (second : Ends permitted computation right) :
    Ends permitted computation fun result => left result ∧ right result := by
  cases computation with
  | ok result => exact ⟨first, second⟩
  | error fault => exact first

theorem Ends.of_ok
    {computation : Except Fault α}
    {property : α → Prop}
    {result : α}
    (ends : Ends permitted computation property)
    (same : computation = .ok result) :
    property result := by
  rw [same] at ends
  exact ends

theorem Ends.of_error
    {computation : Except Fault α}
    {property : α → Prop}
    {fault : Fault}
    (ends : Ends permitted computation property)
    (same : computation = .error fault) :
    permitted fault := by
  rw [same] at ends
  exact ends

theorem Ends.foldlM_rest
    {Item State : Type}
    {body : State → Item → Except Fault State}
    {items : List Item}
    {state : State}
    (invariant : List Item → State → Prop)
    (initially : invariant items state)
    (keeps : ∀ state item rest, invariant (item :: rest) state →
      Ends permitted (body state item) (invariant rest)) :
    Ends permitted (items.foldlM body state) (invariant []) := by
  induction items generalizing state with
  | nil => exact .pure initially
  | cons item rest inductionHypothesis =>
      rw [List.foldlM_cons]
      exact (keeps state item rest initially).bind fun after holds =>
        inductionHypothesis holds

theorem Ends.foldlM
    {Item State : Type}
    {body : State → Item → Except Fault State}
    {items : List Item}
    {state : State}
    (invariant : State → Prop)
    (initially : invariant state)
    (keeps : ∀ state item, item ∈ items → invariant state →
      Ends permitted (body state item) invariant) :
    Ends permitted (items.foldlM body state) invariant := by
  induction items generalizing state with
  | nil => exact .pure initially
  | cons item rest inductionHypothesis =>
      rw [List.foldlM_cons]
      refine (keeps state item List.mem_cons_self initially).bind fun after holds => ?_
      exact inductionHypothesis holds fun state other listed =>
        keeps state other (List.mem_cons_of_mem item listed)

end

/-! ## Objects at addresses -/

section

variable {Object Fault : Type}
variable (address : Object → Nat)

/-- Some object of a table lies at an address. -/
def Allocated (table : List Object) (place : Nat) : Prop :=
  ∃ object ∈ table, address object = place

/-- Following a pointer into a table; a pointer to nothing faults. -/
def follow (dangling : Fault) (table : List Object) (place : Nat) : Except Fault Object :=
  match table.find? fun object => address object = place with
  | some object => .ok object
  | none => .error dangling

def writeAt (table : List Object) (place : Nat) (change : Object → Object) : List Object :=
  table.map fun object => if address object = place then change object else object

variable {address}
variable {table : List Object}
variable {place : Nat}
variable {dangling : Fault}
variable {change : Object → Object}

theorem Allocated.follow_eq_ok
    (allocated : Allocated address table place) :
    ∃ object, follow address dangling table place = .ok object ∧
      object ∈ table ∧ address object = place := by
  obtain ⟨object, listed, here⟩ := allocated
  unfold Library.follow
  cases found : table.find? fun object => decide (address object = place) with
  | none =>
      have absent := List.find?_eq_none.mp found object listed
      exact absurd here (by simpa using absent)
  | some other =>
      have here := List.find?_some found
      exact ⟨other, rfl, List.mem_of_find?_eq_some found, by simpa using here⟩

theorem Allocated.follow
    {permitted : Fault → Prop}
    (allocated : Allocated address table place) :
    Ends permitted (follow address dangling table place)
      fun object => object ∈ table ∧ address object = place := by
  obtain ⟨object, read, holds⟩ := @Allocated.follow_eq_ok _ _ _ _ _ dangling allocated
  rw [read]
  exact holds

theorem follow_ends
    {permitted : Fault → Prop}
    (allowed : permitted dangling) :
    Ends permitted (Library.follow address dangling table place)
      fun object => object ∈ table ∧ address object = place := by
  unfold Library.follow
  cases found : table.find? fun object => decide (address object = place) with
  | none => exact allowed
  | some object =>
      have here := List.find?_some found
      exact ⟨List.mem_of_find?_eq_some found, by simpa using here⟩

theorem follow_eq_error
    (absent : ¬Allocated address table place) :
    follow address dangling table place = .error dangling := by
  have found : (table.find? fun object => decide (address object = place)) = none := by
    rw [List.find?_eq_none]
    intro object listed here
    exact absent ⟨object, listed, by simpa using here⟩
  unfold follow
  rw [found]

theorem map_address_writeAt
    (sameAddress : ∀ object, address (change object) = address object) :
    (writeAt address table place change).map address = table.map address := by
  unfold writeAt
  rw [List.map_map]
  apply List.map_congr_left
  intro object _
  by_cases here : address object = place
  · simp [here, sameAddress]
  · simp [here]

theorem writeAt_writeAt
    {later : Object → Object}
    (sameAddress : ∀ object, address (change object) = address object) :
    writeAt address (writeAt address table place change) place later =
      writeAt address table place fun object => later (change object) := by
  unfold writeAt
  rw [List.map_map]
  apply List.map_congr_left
  intro object _
  by_cases here : address object = place
  · simp [here, sameAddress]
  · simp [here]

theorem writeAt_comm
    {other : Nat}
    {later : Object → Object}
    (differ : place ≠ other)
    (sameAddress : ∀ object, address (change object) = address object)
    (laterSameAddress : ∀ object, address (later object) = address object) :
    writeAt address (writeAt address table place change) other later =
      writeAt address (writeAt address table other later) place change := by
  unfold writeAt
  rw [List.map_map, List.map_map]
  apply List.map_congr_left
  intro object _
  by_cases here : address object = place
  · have elsewhere : address object ≠ other := fun there => differ (here.symm.trans there)
    simp [here, sameAddress, differ]
  · by_cases there : address object = other
    · simp [there, laterSameAddress, Ne.symm differ]
    · simp [here, there]

theorem mem_writeAt
    {object : Object}
    (listed : object ∈ writeAt address table place change) :
    (object ∈ table ∧ address object ≠ place) ∨
      ∃ old ∈ table, address old = place ∧ object = change old := by
  obtain ⟨old, present, rfl⟩ := List.mem_map.mp listed
  by_cases here : address old = place
  · exact .inr ⟨old, present, here, by simp [here]⟩
  · rw [if_neg here]
    exact .inl ⟨present, here⟩

theorem allocated_writeAt
    (sameAddress : ∀ object, address (change object) = address object)
    (other : Nat) :
    Allocated address (writeAt address table place change) other ↔
      Allocated address table other := by
  have same : (writeAt address table place change).map address = table.map address :=
    map_address_writeAt sameAddress
  have meaning : ∀ table : List Object,
      Allocated address table other ↔ other ∈ table.map address := by
    intro table
    simp [Allocated]
  rw [meaning, meaning, same]

theorem Ends.foldlM_addresses
    {permitted : Fault → Prop}
    {State : Type}
    {body : State → Nat → Except Fault State}
    {start : State}
    {places : List Nat}
    (address : Object → Nat)
    (table : State → List Object)
    (invariant : State → Prop)
    (toDo : Object → Prop)
    (initially : invariant start)
    (distinct : places.Nodup)
    (allocated : ∀ place ∈ places, Allocated address (table start) place)
    (covered : ∀ object ∈ table start, toDo object → address object ∈ places)
    (visits : ∀ state place, invariant state → Allocated address (table state) place →
      Ends permitted (body state place) fun after =>
        invariant after ∧
          (∀ object ∈ table after, toDo object → ∃ old ∈ table state,
            toDo old ∧ address old = address object ∧ address object ≠ place) ∧
          ∀ other, other ≠ place → Allocated address (table state) other →
            Allocated address (table after) other) :
    Ends permitted (places.foldlM body start) fun after =>
      invariant after ∧ ∀ object ∈ table after, ¬toDo object := by
  refine (Ends.foldlM_rest
    (fun rest state => invariant state ∧ rest.Nodup ∧
      (∀ place ∈ rest, Allocated address (table state) place) ∧
      ∀ object ∈ table state, toDo object → address object ∈ rest)
    ⟨initially, distinct, allocated, covered⟩ ?_).mono ?_
  · intro state place rest ⟨holds, distinct, allocated, left⟩
    obtain ⟨once, distinct⟩ := List.nodup_cons.mp distinct
    refine (visits state place holds (allocated place List.mem_cons_self)).mono
      fun after ⟨holds, remaining, stays⟩ => ?_
    refine ⟨holds, distinct, fun other present => ?_, fun object listed isToDo => ?_⟩
    · exact stays other (fun same => once (same ▸ present))
        (allocated other (List.mem_cons_of_mem _ present))
    · obtain ⟨old, before, wasToDo, here, differs⟩ := remaining object listed isToDo
      have present := left old before wasToDo
      rw [here] at present
      exact (List.mem_cons.mp present).resolve_left differs
  · intro state ⟨holds, _, _, left⟩
    exact ⟨holds, fun object listed isToDo => List.not_mem_nil (left object listed isToDo)⟩

end

end Library
end SoftEther
