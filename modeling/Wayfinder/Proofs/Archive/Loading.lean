/-
**What loading a directory amounts to.**

The entries are put in the order of their names before any of them is read, and names in a directory
differ. So nothing of the order in which the directory is listed is left: the outcome can be told
from the set of entries alone. Either there is an entry that cannot be read, and of those the one
with the least name is reported, or what is loaded are the bundles of the files that hold one, each
once and in the order of the names.

* `Listing`: what the file system shows of a directory;
* `Loads`: the outcome of loading it, told without an order;
* `join_loads`, `load_loads`: that is what loading gives;
* `Loads.unique`, `load_reordered`: two listings of the same entries have one outcome;
* `open_of_ok`, `open_of_error`: opening takes over what has been loaded, or nothing.
-/

import Mathlib.Data.List.Nodup
import Mathlib.Data.List.Perm.Basic
import Mathlib.Data.String.Basic
import Wayfinder.Archive

namespace Wayfinder

/-- What the file system shows of a directory: its entries, whose names differ, or a reason why they
cannot be listed. -/
structure Listing where
  directory : Option Directory
  refusal : String := Archive.notFound
  distinct : ∀ entries, directory = some entries → (entries.map (·.1)).Nodup

/-- Two listings of the same entries, or two that fail for the same reason. -/
structure Listing.Reordered (listing other : Listing) : Prop where
  directory : Option.Rel List.Perm listing.directory other.directory
  refusal : listing.refusal = other.refusal

namespace Archive

/-- The archive when the file system shows another listing. -/
def showing (archive : Archive) (listing : Listing) : Archive :=
  { archive with directory := listing.directory, refusal := listing.refusal }

/-- Whether this is what the file system shows. -/
structure Shows (archive : Archive) (listing : Listing) : Prop where
  directory : archive.directory = listing.directory
  refusal : archive.refusal = listing.refusal

theorem shows_showing (archive : Archive) (listing : Listing) :
    (archive.showing listing).Shows listing :=
  ⟨rfl, rfl⟩

/-! ### The outcome, told without an order -/

/-- The entry holds this bundle. -/
def Holds (entry : Entry) (bundle : Metadata) : Prop :=
  ∃ text, read entry = .ok text ∧ Json.read? Metadata.ofJson? text = some bundle

/-- **The outcome of loading a directory**, told without the order in which it is listed. -/
inductive Loads (path refusal : String) : Option Directory → Except MetadataFault Metadata → Prop
  | unlisted : Loads path refusal none (.error (.unreadable path refusal))
  /-- Of the JSON files that cannot be read the first one by name is reported. -/
  | refused {entries : Directory} {name : String} {entry : Entry} {message : String}
      (listed : (name, entry) ∈ entries) (json : FileName.isJson name = true)
      (unreadable : read entry = .error message)
      (first : ∀ other ∈ entries, FileName.isJson other.1 = true →
        (∃ message, read other.2 = .error message) → name ≤ other.1) :
      Loads path refusal (some entries)
        (.error (.unreadable (FileName.within path name) message))
  /-- The bundles are those of the JSON files that hold one, by ascending names. -/
  | loaded {entries : Directory} {bundles : List (String × Metadata)}
      (readable : ∀ other ∈ entries, FileName.isJson other.1 = true →
        ∃ text, read other.2 = .ok text)
      (ascending : bundles.Pairwise fun first second => first.1 < second.1)
      (exact : ∀ name bundle, (name, bundle) ∈ bundles ↔
        ∃ entry, (name, entry) ∈ entries ∧ FileName.isJson name = true ∧ Holds entry bundle) :
      Loads path refusal (some entries) (.ok (Metadata.concat (bundles.map (·.2))))

section

variable {path refusal : String} {entries others : Directory}
  {outcome outcome' : Except MetadataFault Metadata}

/-- Only the JSON files count, and it does not matter how they are listed. -/
theorem Loads.congr
    (same : ∀ entry : String × Entry, FileName.isJson entry.1 = true →
      (entry ∈ entries ↔ entry ∈ others))
    (loads : Loads path refusal (some entries) outcome) :
    Loads path refusal (some others) outcome := by
  cases loads with
  | @refused _ name entry _ listed json unreadable first =>
    exact .refused ((same (name, entry) json).mp listed) json unreadable fun other member json' =>
      first other ((same other json').mpr member) json'
  | loaded readable ascending exact =>
    refine .loaded (fun other member json => readable other ((same other json).mpr member) json)
      ascending fun name bundle => (exact name bundle).trans ?_
    constructor
    · rintro ⟨entry, member, json, holds⟩
      exact ⟨entry, (same (name, entry) json).mp member, json, holds⟩
    · rintro ⟨entry, member, json, holds⟩
      exact ⟨entry, (same (name, entry) json).mpr member, json, holds⟩

/-- The order of the listing does not matter. -/
theorem Loads.reordered {directory directory' : Option Directory}
    (reordered : Option.Rel List.Perm directory directory')
    (loads : Loads path refusal directory outcome) : Loads path refusal directory' outcome := by
  cases reordered with
  | none => exact loads
  | some permuted => exact loads.congr fun _ _ => permuted.mem_iff

/-! ### What loading gives -/

theorem mem_relevant {entry : String × Entry} :
    entry ∈ relevant entries ↔ entry ∈ entries ∧ FileName.isJson entry.1 = true := by
  rw [relevant, List.mem_mergeSort, List.mem_filter]

/-- The entries that count are read by ascending names. -/
theorem pairwise_relevant (distinct : (entries.map (·.1)).Nodup) :
    (relevant entries).Pairwise fun first second => first.1 < second.1 := by
  let kept := entries.filter fun entry => FileName.isJson entry.1
  have ordered : (relevant entries).Pairwise fun first second => first.1 ≤ second.1 := by
    let before (first second : String × Entry) : Bool := decide (first.1 ≤ second.1)
    have transitive (first second third : String × Entry) (one : before first second = true)
        (two : before second third = true) : before first third = true :=
      decide_eq_true (le_trans (of_decide_eq_true one) (of_decide_eq_true two))
    have total (first second : String × Entry) :
        (before first second || before second first) = true := by
      simpa [before] using le_total first.1 second.1
    have sorted := List.pairwise_mergeSort transitive total kept
    exact sorted.imp of_decide_eq_true
  have apart : ((relevant entries).map (·.1)).Nodup := by
    refine ((List.mergeSort_perm kept _).map _).nodup_iff.mpr ?_
    exact distinct.sublist (List.filter_sublist.map _)
  exact ordered.imp₂ (fun _ _ le ne => lt_of_le_of_ne le ne) (List.pairwise_map.mp apart)

/-- There is one list of the entries that count by ascending names. -/
theorem relevant_eq {sorted : Directory} (distinct : (entries.map (·.1)).Nodup)
    (same : sorted.Perm (entries.filter fun entry => FileName.isJson entry.1))
    (ascending : sorted.Pairwise fun first second => first.1 < second.1) :
    relevant entries = sorted :=
  ((List.mergeSort_perm _ _).trans same.symm).eq_of_pairwise
    (fun _ _ _ _ one two => absurd one (lt_asymm two)) (pairwise_relevant distinct) ascending

/-- The bundle that a file of a name holds, as a list of one or none. -/
def found (name text : String) : List (String × Metadata) :=
  ((Json.read? Metadata.ofJson? text).map fun bundle => (name, bundle)).toList

theorem mem_found {name other text : String} {bundle : Metadata} :
    (other, bundle) ∈ found name text ↔
      other = name ∧ Json.read? Metadata.ofJson? text = some bundle := by
  rw [found, Option.mem_toList, Option.map_eq_some_iff]
  constructor
  · rintro ⟨_, parsed, same⟩
    cases same
    exact ⟨rfl, parsed⟩
  · rintro ⟨rfl, parsed⟩
    exact ⟨bundle, parsed, rfl⟩

theorem concat_found (name text : String) (bundles : List (String × Metadata)) :
    Metadata.concat ((found name text ++ bundles).map (·.2)) =
      Archive.bundle text ++ Metadata.concat (bundles.map (·.2)) := by
  rw [found, Archive.bundle]
  cases Json.read? Metadata.ofJson? text with
  | none | some => rfl

/-- A file before all others that can be read puts its bundle in front of theirs. -/
theorem Loads.cons {name text : String} {entry : Entry}
    (before : ∀ other ∈ entries, name < other.1) (json : FileName.isJson name = true)
    (reads : read entry = .ok text) (loads : Loads path refusal (some entries) outcome) :
    Loads path refusal (some ((name, entry) :: entries))
      (outcome.map (Archive.bundle text ++ ·)) := by
  cases loads with
  | refused listed json unreadable first =>
    refine .refused (List.mem_cons_of_mem _ listed) json unreadable fun other member json' fails => ?_
    rcases List.mem_cons.mp member with rfl | later
    · obtain ⟨message, fails⟩ := fails
      rw [reads] at fails
      cases fails
    · exact first other later json' fails
  | @loaded _ bundles readable ascending exact =>
    show Loads path refusal _ (.ok (Archive.bundle text ++ Metadata.concat (bundles.map (·.2))))
    rw [← concat_found name text]
    refine .loaded ?_ ?_ fun other bundle => ?_
    · intro other member json'
      rcases List.mem_cons.mp member with rfl | later
      · exact ⟨text, reads⟩
      · exact readable other later json'
    · refine List.pairwise_append.mpr ⟨?_, ascending, fun first one second two => ?_⟩
      · rw [found]
        cases Json.read? Metadata.ofJson? text with
        | none => exact .nil
        | some => exact List.pairwise_singleton _ _
      · obtain ⟨rfl, _⟩ := mem_found.mp one
        obtain ⟨later, member, _⟩ := (exact second.1 second.2).mp two
        exact before (second.1, later) member
    · rw [List.mem_append, mem_found, exact]
      constructor
      · rintro (⟨rfl, parsed⟩ | ⟨later, member, json', holds⟩)
        · exact ⟨entry, List.mem_cons_self, json, text, reads, parsed⟩
        · exact ⟨later, List.mem_cons_of_mem _ member, json', holds⟩
      · rintro ⟨later, member, json', holds⟩
        rcases List.mem_cons.mp member with same | member
        · cases same
          obtain ⟨text', reads', parsed⟩ := holds
          rw [reads] at reads'
          cases reads'
          exact .inl ⟨rfl, parsed⟩
        · exact .inr ⟨later, member, json', holds⟩

/-- **Reading entries one after another, by ascending names, gives that outcome.** -/
theorem join_loads (ascending : entries.Pairwise fun first second => first.1 < second.1)
    (json : ∀ entry ∈ entries, FileName.isJson entry.1 = true) :
    Loads path refusal (some entries) (join path entries) := by
  induction entries with
  | nil =>
    exact @Loads.loaded path refusal [] [] (fun _ member => absurd member List.not_mem_nil) .nil
      fun _ _ => by simp
  | cons head rest hypothesis =>
    obtain ⟨name, entry⟩ := head
    obtain ⟨before, ascending⟩ := List.pairwise_cons.mp ascending
    have json' := json (name, entry) List.mem_cons_self
    have others := hypothesis ascending fun other member =>
      json other (List.mem_cons_of_mem _ member)
    rw [join]
    cases reads : read entry with
    | error message =>
      refine .refused List.mem_cons_self json' reads fun other member _ _ => ?_
      rcases List.mem_cons.mp member with rfl | later
      · exact le_refl _
      · exact le_of_lt (before other later)
    | ok text =>
      have both := others.cons before json' reads
      cases joined : join path rest with
      | error | ok =>
        rw [joined] at both
        exact both

/-- **Loading gives that outcome**, in whatever order the directory is listed. -/
theorem load_loads {archive : Archive} {listing : Listing} (shows : archive.Shows listing) :
    Loads archive.path listing.refusal listing.directory archive.load := by
  rw [load, shows.directory, shows.refusal]
  cases listed : listing.directory with
  | none => exact .unlisted
  | some entries =>
    have read : Loads archive.path listing.refusal (some (relevant entries))
        (join archive.path (relevant entries)) :=
      join_loads (pairwise_relevant (listing.distinct entries listed)) fun _ member =>
        (mem_relevant.mp member).2
    exact read.congr fun _ json => ⟨fun member => (mem_relevant.mp member).1,
      fun member => mem_relevant.mpr ⟨member, json⟩⟩

/-! ### One outcome -/

/-- Names differ, so an entry is known by its name. -/
theorem entry_unique (distinct : (entries.map (·.1)).Nodup) {name : String} {entry other : Entry}
    (one : (name, entry) ∈ entries) (two : (name, other) ∈ entries) : entry = other := by
  have same := List.inj_on_of_nodup_map distinct one two rfl
  exact congrArg Prod.snd same

/-- **A directory has one outcome.** -/
theorem Loads.unique {directory : Option Directory}
    (distinct : ∀ entries, directory = some entries → (entries.map (·.1)).Nodup)
    (loads : Loads path refusal directory outcome)
    (loads' : Loads path refusal directory outcome') : outcome = outcome' := by
  cases loads with
  | unlisted =>
    cases loads'
    rfl
  | @refused entries name entry message listed json unreadable first =>
    cases loads' with
    | @refused _ name' entry' message' listed' json' unreadable' first' =>
      have same : name = name' :=
        le_antisymm (first _ listed' json' ⟨message', unreadable'⟩)
          (first' _ listed json ⟨message, unreadable⟩)
      subst same
      have same := entry_unique (distinct entries rfl) listed listed'
      subst same
      rw [unreadable] at unreadable'
      cases unreadable'
      rfl
    | loaded readable =>
      obtain ⟨text, reads⟩ := readable _ listed json
      rw [unreadable] at reads
      cases reads
  | @loaded entries bundles readable ascending exact =>
    cases loads' with
    | refused listed json unreadable =>
      obtain ⟨text, reads⟩ := readable _ listed json
      rw [unreadable] at reads
      cases reads
    | @loaded _ bundles' readable' ascending' exact' =>
      have nodup {bundles : List (String × Metadata)}
          (ascending : bundles.Pairwise fun first second => first.1 < second.1) : bundles.Nodup :=
        ascending.imp fun below same => absurd (congrArg Prod.fst same) (ne_of_lt below)
      have permuted : bundles.Perm bundles' :=
        (List.perm_ext_iff_of_nodup (nodup ascending) (nodup ascending')).mpr fun found =>
          (exact found.1 found.2).trans (exact' found.1 found.2).symm
      rw [permuted.eq_of_pairwise (fun _ _ _ _ one two => absurd one (lt_asymm two)) ascending
        ascending']

/-- **Two listings of the same entries have one outcome.** -/
theorem load_reordered {archive other : Archive} {listing listing' : Listing}
    (shows : archive.Shows listing) (shows' : other.Shows listing')
    (reordered : listing.Reordered listing') (path : other.path = archive.path) :
    other.load = archive.load := by
  have loads := (load_loads shows).reordered reordered.directory
  have loads' := load_loads shows'
  rw [path, ← reordered.refusal] at loads'
  exact loads'.unique listing'.distinct loads

/-! ### Opening -/

theorem open_of_ok {archive : Archive} {loaded : Metadata} (loads : archive.load = .ok loaded) :
    archive.open = (.ok (), { archive with loaded }) := by
  rw [Archive.open, loads]

/-- An archive that cannot be opened stays as it is. -/
theorem open_of_error {archive : Archive} {fault : MetadataFault}
    (fails : archive.load = .error fault) : archive.open = (.error fault, archive) := by
  rw [Archive.open, fails]

end

end Archive

end Wayfinder
