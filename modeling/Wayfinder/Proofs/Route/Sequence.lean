/-
**Hop predicates say everything about a route.**

The predicates of a route tell of each run of hops of one node the interface by which the route
enters and the one by which it leaves. Runs of one or two real interfaces are told completely: where
one of the two numbers is zero it stands for an end of the route, and where there is one number there
is one interface. So it does not matter at which place a predicate stands; a reader takes the numbers
behind the name of the node and leaves the zeros out.

What separates the parts does not stand in them. Names of nodes and numerals have no blank, no
number sign and no comma.

* `Hop.flatMap_runs`: the runs are the hops in their order;
* `Hop.Told`: no interface is zero, and no three hops of one node follow each other;
* `runPredicate_eq`: the numbers of a predicate, in whatever place it stands;
* `hops?`, `Route.hops?_sequence`: the hops are read from the predicates;
* `Route.sequence_injective`: routes with the same predicates have the same hops.
-/

import Mathlib.Data.List.Forall2
import Mathlib.Data.List.Infix
import Wayfinder.Proofs.Message.Records
import Wayfinder.Route

namespace Wayfinder

/-! ### Runs -/

namespace Hop

variable {hops : List Hop}

/-- The hops of a run. -/
def ofRun (run : Node × List InterfaceId) : List Hop := run.2.map (Hop.mk run.1)

/-- **The runs are the hops in their order.** -/
theorem flatMap_runs (hops : List Hop) : (runs hops).flatMap ofRun = hops := by
  induction hops with
  | nil => rfl
  | cons hop rest hypothesis =>
    unfold runs
    split
    · next node interfaces later found =>
      rw [found, List.flatMap_cons] at hypothesis
      split
      · next same =>
        subst same
        rw [List.flatMap_cons, ← hypothesis]
        rfl
      · rw [List.flatMap_cons, List.flatMap_cons, hypothesis]
        rfl
    · next found =>
      rw [found] at hypothesis
      rw [← hypothesis]
      rfl

/-- No run is empty. -/
theorem runs_ne_nil (hops : List Hop) : ∀ run ∈ runs hops, run.2 ≠ [] := by
  induction hops with
  | nil => exact fun _ member => absurd member List.not_mem_nil
  | cons hop rest hypothesis =>
    unfold runs
    split
    · next node interfaces later found =>
      rw [found] at hypothesis
      split
      · intro run member
        rcases List.mem_cons.mp member with rfl | older
        · exact List.cons_ne_nil _ _
        · exact hypothesis run (List.mem_cons_of_mem _ older)
      · intro run member
        rcases List.mem_cons.mp member with rfl | older
        · exact List.cons_ne_nil _ _
        · exact hypothesis run older
    · intro run member
      obtain rfl := List.mem_singleton.mp member
      exact List.cons_ne_nil _ _

theorem ofRun_infix {run : Node × List InterfaceId} (member : run ∈ runs hops) :
    ofRun run <:+: hops := by
  have inside : ofRun run <:+: ((runs hops).map ofRun).flatten :=
    List.infix_of_mem_flatten (List.mem_map_of_mem member)
  rwa [← List.flatMap_def, flatMap_runs] at inside

/-- **Hops of which the predicates tell everything**: no interface is zero, which stands for an end,
and where hops of one node follow each other there are at most two. -/
structure Told (hops : List Hop) : Prop where
  real : ∀ hop ∈ hops, hop.interface ≠ 0
  brief : ∀ part, part <:+: hops → (∀ first ∈ part, ∀ second ∈ part, first.node = second.node) →
    part.length ≤ 2

/-- The runs of such hops have one or two interfaces, and none of them is zero. -/
theorem Told.run (told : Told hops) {run : Node × List InterfaceId} (member : run ∈ runs hops) :
    run.2.length ≤ 2 ∧ ∀ interface ∈ run.2, interface ≠ 0 := by
  have inside := ofRun_infix member
  constructor
  · have bound := told.brief _ inside fun first one second two => by
      obtain ⟨_, _, rfl⟩ := List.mem_map.mp one
      obtain ⟨_, _, rfl⟩ := List.mem_map.mp two
      rfl
    rwa [ofRun, List.length_map] at bound
  · intro interface there
    exact told.real ⟨run.1, interface⟩ (inside.subset (List.mem_map_of_mem there))

/-- Whether the predicates tell everything can be checked. -/
instance (hops : List Hop) : Decidable (Told hops) :=
  decidable_of_iff ((∀ hop ∈ hops, hop.interface ≠ 0) ∧
      ∀ tail ∈ hops.tails, ∀ part ∈ tail.inits,
        (∀ first ∈ part, ∀ second ∈ part, first.node = second.node) → part.length ≤ 2) <| by
    constructor
    · rintro ⟨real, brief⟩
      refine ⟨real, fun part inside => ?_⟩
      obtain ⟨tail, front, back⟩ := List.infix_iff_prefix_suffix.mp inside
      exact brief tail ((List.mem_tails _ _).mpr back) part ((List.mem_inits _ _).mpr front)
    · rintro ⟨real, brief⟩
      refine ⟨real, fun tail back part front => brief part ?_⟩
      exact List.infix_iff_prefix_suffix.mpr
        ⟨tail, (List.mem_inits _ _).mp front, (List.mem_tails _ _).mp back⟩

end Hop

/-! ### Predicates -/

/-- What a predicate says: a node, and numbers with commas between them. -/
def predicateOf (node : Node) (numbers : List InterfaceId) : List Char :=
  node.characters ++ '#' :: List.intercalate [','] (numbers.map InterfaceId.characters)

/-- **A predicate of one or two real interfaces has these for its numbers, and zeros for the ends of
the route.** -/
theorem runPredicate_eq (position : RunPosition) (node : Node) {interfaces : List InterfaceId}
    (any : interfaces ≠ []) (short : interfaces.length ≤ 2)
    (real : ∀ interface ∈ interfaces, interface ≠ 0) :
    ∃ numbers, runPredicate position node interfaces = predicateOf node numbers ∧ numbers ≠ [] ∧
      numbers.filter (· ≠ 0) = interfaces := by
  have pair (entry exit : InterfaceId) : predicateOf node [entry, exit] =
      node.characters ++ '#' :: InterfaceId.characters entry ++
        ',' :: InterfaceId.characters exit := by
    simp [predicateOf, List.intercalate]
  match interfaces, any, short, real with
  | [single], _, _, real =>
    have real := real single List.mem_cons_self
    cases position with
    | first => exact ⟨[0, single], (pair 0 single).symm, by simp, by simp [real]⟩
    | last => exact ⟨[single, 0], (pair single 0).symm, by simp, by simp [real]⟩
    | middle => exact ⟨[single], by simp [predicateOf, runPredicate], by simp, by simp [real]⟩
  | [entry, exit], _, _, real =>
    have real' := real exit (by simp)
    have real := real entry List.mem_cons_self
    exact ⟨[entry, exit], (pair entry exit).symm, by simp, by simp [real, real']⟩

/-- The predicates of runs in order, each in some place. -/
theorem laterPredicates_forall₂ (runs : List (Node × List InterfaceId)) :
    List.Forall₂ (fun run predicate => ∃ position, predicate = runPredicate position run.1 run.2)
      runs (laterPredicates runs) := by
  induction runs with
  | nil => exact .nil
  | cons run rest hypothesis =>
    cases rest with
    | nil => exact .cons ⟨.last, rfl⟩ .nil
    | cons next rest => exact .cons ⟨.middle, rfl⟩ hypothesis

theorem runPredicates_forall₂ (runs : List (Node × List InterfaceId)) :
    List.Forall₂ (fun run predicate => ∃ position, predicate = runPredicate position run.1 run.2)
      runs (runPredicates runs) := by
  cases runs with
  | nil => exact .nil
  | cons run rest => exact .cons ⟨.first, rfl⟩ (laterPredicates_forall₂ rest)

/-! ### Reading predicates -/

/-- Reads the number of an interface. -/
def interface? (numeral : List Char) : Option InterfaceId :=
  (Numeral.value? 10 numeral).map UInt64.ofNat

/-- Reads the hops of a predicate. A zero is none. -/
def hopsOfPredicate? (predicate : List Char) : Option (List Hop) :=
  match predicate.span (· ≠ '#') with
  | (name, '#' :: numerals) => do
    let node ← (Node.parse (String.ofList name)).toOption
    let numbers ← (numerals.splitOn ',').mapM interface?
    return Hop.ofRun (node, numbers.filter (· ≠ 0))
  | _ => none

/-- **Reads the hops of a route from its predicates.** -/
def hops? (sequence : String) : Option (List Hop) :=
  if sequence.toList = [] then some []
  else ((sequence.toList.splitOn ' ').mapM hopsOfPredicate?).map List.flatten

/-- What is read of each element of a list. -/
theorem mapM_of_forall₂ {α β γ : Type} {read : β → Option γ} {meant : α → γ} {entries : List α}
    {texts : List β} (each : List.Forall₂ (fun entry text => read text = some (meant entry))
      entries texts) : texts.mapM read = some (entries.map meant) := by
  induction each with
  | nil => rfl
  | cons here _ hypothesis =>
    rw [List.mapM_cons, here, hypothesis]
    rfl

theorem interface?_characters (interface : InterfaceId) :
    interface? interface.characters = some interface := by
  rw [interface?, InterfaceId.characters, Numeral.value?_ofNat (by decide) (by decide)]
  exact congrArg some (UInt64.ofNat_toNat)

theorem not_mem_interface {mark : Char} (other : Numeral.isDigitOf 10 mark = false)
    (interface : InterfaceId) : mark ∉ interface.characters :=
  Numeral.not_mem_ofNat (by decide) (by decide) other

/-- What is no digit, no hyphen and no colon does not stand in a name. -/
theorem Node.not_mem_characters {node : Node} {mark : Char}
    (other : Numeral.isDigitOf 16 mark = false ∧ mark ≠ '-' ∧ mark ≠ ':') :
    mark ∉ node.characters := by
  intro member
  rcases mem_characters member with digit | hyphen | colon
  · rw [digit] at other
    cases other.1
  · exact other.2.1 hyphen
  · exact other.2.2 colon

/-- **The hops of a predicate are its node with each of its numbers that is not zero.** -/
theorem hopsOfPredicate?_predicateOf (node : Node) {numbers : List InterfaceId}
    (any : numbers ≠ []) :
    hopsOfPredicate? (predicateOf node numbers) =
      some (Hop.ofRun (node, numbers.filter (· ≠ 0))) := by
  have apart : '#' ∉ node.characters := Node.not_mem_characters (by decide)
  have numerals : (List.intercalate [','] (numbers.map InterfaceId.characters)).splitOn ',' =
      numbers.map InterfaceId.characters := by
    refine List.splitOn_intercalate ',' (fun numeral member => ?_) (by simp [any])
    obtain ⟨interface, _, rfl⟩ := List.mem_map.mp member
    exact not_mem_interface (by decide) interface
  have read : (numbers.map InterfaceId.characters).mapM interface? = some (numbers.map id) := by
    refine mapM_of_forall₂ (List.forall₂_map_right_iff.mpr ?_)
    exact List.forall₂_same.mpr fun interface _ => interface?_characters interface
  have name : Node.parse (String.ofList node.characters) = .ok node := node.parse_text
  simp only [hopsOfPredicate?, predicateOf, Node.span_of_mark apart, name, numerals, read,
    List.map_id]
  rfl

/-- What stands in none of the parts does not stand in the whole. -/
theorem not_mem_intercalate {mark separator : Char} (differs : mark ≠ separator)
    {parts : List (List Char)} (each : ∀ part ∈ parts, mark ∉ part) :
    mark ∉ List.intercalate [separator] parts := by
  induction parts with
  | nil => exact List.not_mem_nil
  | cons first rest hypothesis =>
    have first' := each first List.mem_cons_self
    have rest' := hypothesis fun part member => each part (List.mem_cons_of_mem _ member)
    cases rest with
    | nil => rwa [List.intercalate_singleton]
    | cons second others =>
      rw [List.intercalate_cons_cons]
      simp only [List.mem_append, List.mem_singleton, not_or]
      exact ⟨⟨first', differs⟩, rest'⟩

/-- A predicate has no blanks. -/
theorem blank_not_mem_predicateOf (node : Node) (numbers : List InterfaceId) :
    ' ' ∉ predicateOf node numbers := by
  have name : ' ' ∉ node.characters := Node.not_mem_characters (by decide)
  have numerals : ' ' ∉ List.intercalate [','] (numbers.map InterfaceId.characters) := by
    refine not_mem_intercalate (by decide) fun numeral member => ?_
    obtain ⟨interface, _, rfl⟩ := List.mem_map.mp member
    exact not_mem_interface (by decide) interface
  simp [predicateOf, name, numerals]

namespace Route

variable {route first second : Route}

/-- Each predicate of a route has no blanks, and its run is read from it. -/
theorem predicates_read (told : Hop.Told route.hops) :
    List.Forall₂ (fun text run => ' ' ∉ text ∧ hopsOfPredicate? text = some (Hop.ofRun run))
      (runPredicates (Hop.runs route.hops)) (Hop.runs route.hops) := by
  have known := (List.forall₂_and_left _ _).mpr
    ⟨fun run member => And.intro (Hop.runs_ne_nil _ run member) (told.run member),
      runPredicates_forall₂ (Hop.runs route.hops)⟩
  refine .flip (known.imp fun run text => ?_)
  rintro ⟨⟨any, short, real⟩, position, rfl⟩
  obtain ⟨numbers, same, some, real'⟩ := runPredicate_eq position run.1 any short real
  rw [flip, same, hopsOfPredicate?_predicateOf run.1 some, real']
  exact ⟨blank_not_mem_predicateOf run.1 numbers, rfl⟩

/-- **The hops of a route are read from its predicates**, if no interface is zero and no three hops
of one node follow each other. -/
theorem hops?_sequence (told : Hop.Told route.hops) : hops? route.sequence = some route.hops := by
  obtain ⟨solid, reads⟩ := (List.forall₂_and_left _ _).mp (predicates_read told)
  have read := mapM_of_forall₂ (List.Forall₂.flip reads)
  have whole : route.sequence.toList =
      List.intercalate [' '] (runPredicates (Hop.runs route.hops)) := String.toList_ofList
  unfold hops?
  rw [whole]
  by_cases none : runPredicates (Hop.runs route.hops) = []
  · have bare : Hop.runs route.hops = [] := by
      rw [none] at reads
      exact List.forall₂_nil_left_iff.mp reads
    have hops := Hop.flatMap_runs route.hops
    rw [bare] at hops
    rw [none, if_pos List.intercalate_nil, ← hops]
    rfl
  · have parts := List.splitOn_intercalate ' ' solid none
    have any : List.intercalate [' '] (runPredicates (Hop.runs route.hops)) ≠ [] := by
      intro empty
      rw [empty, List.splitOn_nil] at parts
      rw [← parts] at read
      cases read
    rw [if_neg any, parts, read, Option.map_some, ← List.flatMap_def, Hop.flatMap_runs]

/-- **Routes with the same predicates have the same hops.** -/
theorem sequence_injective (told : Hop.Told first.hops) (told' : Hop.Told second.hops)
    (same : first.sequence = second.sequence) : first.hops = second.hops := by
  have read := hops?_sequence told
  rw [same, hops?_sequence told'] at read
  exact (Option.some.inj read).symm

/-- Nodes of routes. -/
def shore : Node := { isd := 5, asn := 50 }

def ford : Node := { isd := 5, asn := 51 }

def island : Node := { isd := 6, asn := 0xff0000000110 }

/-- Hops of a route that comes back to the node at which it begins. -/
def winding : List Hop := [⟨shore, 1⟩, ⟨ford, 3⟩, ⟨ford, 4⟩, ⟨island, 7⟩, ⟨shore, 2⟩]

/-- Routes that differ by their ends alone have the same predicates, and so the same hops. -/
theorem sequence_injective_winding :
    let there : Route := ⟨shore, ford, winding⟩
    let back : Route := ⟨ford, shore, winding⟩
    there.sequence = back.sequence ∧ there.hops = back.hops :=
  ⟨rfl, sequence_injective (by decide) (by decide) rfl⟩

/-- Of three hops of one node the one in the middle is not told. -/
example :
    (⟨ford, ford, [⟨ford, 1⟩, ⟨ford, 2⟩, ⟨ford, 3⟩]⟩ : Route).sequence =
      (⟨ford, ford, [⟨ford, 1⟩, ⟨ford, 3⟩]⟩ : Route).sequence := by decide

end Route

end Wayfinder
