/-
**What a survey is to find.**

The attributes of a candidate are given by position: the bandwidth and the latency at an index belong
to the link at that index, the place at an index to the hop at that index, as far as the lists reach
and the value is known. So the links of a candidate have attributes that depend on nothing else, and
its located hops have the countries that were told about their places, one after another.

A survey takes everything off the front of its lists as it walks. What it has found and what is still
ahead of it always make up the whole.

* `Candidate.linkAttributes`, `Candidate.nodeAttributes`: the attributes of a candidate, by position;
* `Candidate.located`: its hops with a known place, in order;
* `Survey.distinct_eq`, `Survey.toInt_clamp`: texts are told once, and numbers are capped;
* `Survey.tour_ahead`: where the tour with some answers stands;
* `Survey.found_tour_located`: what it has found when it has heard of all places.
-/

import Wayfinder.Fault
import Wayfinder.Proofs.Survey.Tour

namespace Wayfinder

/-! ### Attributes by position -/

/-- What is known at an index of a list. -/
def knownAt? {α : Type} (values : List (Option α)) (index : Nat) : Option α := values[index]?.join

/-- The texts that are not empty, each where it occurs first. -/
def named (texts : List String) : List String := (texts.filter fun text => !text.isEmpty).eraseDups

/-- The attributes of links with what is known at their indices: of each link its bandwidth, then
its latency in microseconds. -/
def attributesOfLinks (links : List Link) (bandwidth : List (Option UInt64))
    (latency : List (Option Duration)) : List LinkAttribute :=
  (links.mapIdx fun index link =>
    ((knownAt? bandwidth index).toList.map fun kbps =>
        ⟨Metadata.bandwidthName, link, .int32 (Survey.clamp kbps.toNat)⟩) ++
      (knownAt? latency index).toList.map fun span =>
        ⟨Metadata.latencyName, link, .int32 (Survey.clamp span.micros)⟩).flatten

/-- The hops whose place is known, with their places. -/
def locatedHops (hops : List Hop) (places : List (Option Coordinates)) :
    List (Hop × Coordinates) :=
  (hops.mapIdx fun index hop => (knownAt? places index).toList.map fun place => (hop, place)).flatten

/-- The attributes of located hops with what was told about their places: an attribute for each
country, none where the countries could not be found out. -/
def attributesOfNodes (located : List (Hop × Coordinates))
    (replies : List (Except CallFault (List String))) : List NodeAttribute :=
  (located.zip replies).flatMap fun ((hop, _), reply) =>
    match reply with
    | .ok countries =>
      (named countries).map fun country => ⟨Metadata.operatesName, hop.node, .string country⟩
    | .error _ => []

namespace Candidate

/-- The attributes of the links of a candidate. -/
def linkAttributes (candidate : Candidate) : List LinkAttribute :=
  attributesOfLinks candidate.links candidate.bandwidth candidate.latency

/-- The hops of a candidate whose countries are asked for, with their places. -/
def located (geolocating : Bool) (candidate : Candidate) : List (Hop × Coordinates) :=
  if geolocating then locatedHops candidate.hops candidate.places else []

/-- The attributes of the nodes of a candidate. -/
def nodeAttributes (geolocating : Bool) (candidate : Candidate)
    (replies : List (Except CallFault (List String))) : List NodeAttribute :=
  attributesOfNodes (candidate.located geolocating) replies

/-- The attributes of a candidate. -/
def attributes (geolocating : Bool) (candidate : Candidate)
    (replies : List (Except CallFault (List String))) : Metadata :=
  ⟨candidate.nodeAttributes geolocating replies, candidate.linkAttributes⟩

/-- A candidate without hops has no attributes. -/
theorem attributes_of_nil {candidate : Candidate} (empty : candidate.hops = []) (geolocating : Bool)
    (replies : List (Except CallFault (List String))) :
    candidate.attributes geolocating replies = {} := by
  have links : candidate.linkAttributes = [] := by
    rw [linkAttributes, Candidate.links, empty]
    rfl
  have located : candidate.located geolocating = [] := by
    rw [Candidate.located, empty]
    exact ite_self []
  rw [attributes, nodeAttributes, links, located]
  rfl

end Candidate

/-- The countries that a reply tells. A fault tells none. -/
def toldBy (reply : Except CallFault (List String)) : List String := reply.toOption.getD []

namespace Survey

/-! ### Texts and numbers -/

/-- Texts are told where they occur first. -/
theorem distinct_eq (seen texts : List String) : distinct seen texts =
    ((texts.filter fun text => !text.isEmpty).filter fun text => !seen.contains text).eraseDups := by
  induction texts generalizing seen with
  | nil => rfl
  | cons text rest hypothesis =>
    rw [distinct]
    cases blank : text.isEmpty with
    | true => rw [Bool.true_or, if_pos rfl, hypothesis, List.filter_cons_of_neg (by simp [blank])]
    | false =>
      rw [Bool.false_or, List.filter_cons_of_pos (by simp [blank])]
      cases known : seen.contains text with
      | true => rw [if_pos rfl, hypothesis, List.filter_cons_of_neg (by rw [known]; nofun)]
      | false =>
        -- the text is kept, and is among those already seen from here on
        have apart (texts : List String) :
            (texts.filter fun other => !(text :: seen).contains other) =
              (texts.filter fun other => !seen.contains other).filter fun other => !other == text := by
          rw [List.filter_filter]
          refine List.filter_congr fun other _ => ?_
          rw [List.contains_cons, Bool.not_or]
        rw [if_neg Bool.false_ne_true, List.filter_cons_of_pos (by rw [known]; rfl),
          List.eraseDups_cons, hypothesis, apart]

theorem distinct_nil (texts : List String) : distinct [] texts = named texts := by
  rw [distinct_eq, named]
  congr 1
  exact List.filter_eq_self.mpr fun _ _ => rfl

/-- **A number is given as it is as far as 32 bits with a sign reach, and never as a negative
one.** -/
theorem toInt_clamp (value : Nat) : (clamp value).toInt = min (value : Int) 2147483647 := by
  have small : min value 0x7FFFFFFF < 2 ^ 31 := by omega
  rw [clamp, Int32.toInt_ofNat_of_lt small]
  omega

theorem nodeAttributes_toldBy (hop : Hop) (place : Coordinates)
    (reply : Except CallFault (List String)) :
    nodeAttributes hop.node (toldBy reply) = attributesOfNodes [(hop, place)] [reply] := by
  cases reply with
  | error fault => rfl
  | ok countries =>
    simp only [nodeAttributes, attributesOfNodes, distinct_nil, toldBy, Except.toOption,
      Option.getD_some, List.zip_cons_cons, List.zip_nil_right, List.flatMap_singleton]

/-! ### What is ahead -/

variable {geolocating : Bool} {survey : Survey}

/-- The attributes of the links that are ahead. -/
def linksAhead (survey : Survey) : List LinkAttribute :=
  attributesOfLinks (Link.chain survey.hops) survey.bandwidth survey.latency

/-- The hops ahead whose countries are asked for. -/
def locatedAhead (geolocating : Bool) (survey : Survey) : List (Hop × Coordinates) :=
  if geolocating then locatedHops survey.hops survey.places else []

theorem first?_eq {α : Type} (values : List (Option α)) : first? values = knownAt? values 0 := by
  cases values with
  | nil => rfl
  | cons value rest => cases value <;> rfl

theorem knownAt?_succ {α : Type} (values : List (Option α)) (index : Nat) :
    knownAt? values (index + 1) = knownAt? values.tail index := by
  rw [knownAt?, knownAt?, List.getElem?_tail]

/-- The first link ahead has what is known first. -/
theorem attributesOfLinks_cons (link : Link) (links : List Link) (bandwidth : List (Option UInt64))
    (latency : List (Option Duration)) : attributesOfLinks (link :: links) bandwidth latency =
      Survey.linkAttributes link (first? bandwidth) (first? latency) ++
        attributesOfLinks links bandwidth.tail latency.tail := by
  simp only [attributesOfLinks, List.mapIdx_cons, List.flatten_cons, knownAt?_succ, first?_eq,
    Survey.linkAttributes]

/-- The first hop ahead has the place that is known first. -/
theorem locatedHops_cons (hop : Hop) (hops : List Hop) (places : List (Option Coordinates)) :
    locatedHops (hop :: hops) places =
      ((first? places).toList.map fun place => (hop, place)) ++ locatedHops hops places.tail := by
  simp only [locatedHops, List.mapIdx_cons, List.flatten_cons, knownAt?_succ, first?_eq]

/-- **Over a hop, what was found and what is ahead remain the links' attributes.** -/
theorem links_pass (countries : List String) :
    (survey.pass countries).found.links ++ (survey.pass countries).linksAhead =
      survey.found.links ++ survey.linksAhead := by
  unfold pass
  split
  · rfl
  · next hop rest hops =>
    simp only [linksAhead, hops, Metadata.links_append, List.append_assoc]
    cases rest with
    | nil => rfl
    | cons next rest =>
      show survey.found.links ++ (_ ++ _) =
        survey.found.links ++ attributesOfLinks (⟨hop, next⟩ :: Link.chain (next :: rest)) _ _
      rw [attributesOfLinks_cons]

/-- A hop without a place to ask about is passed without a trace. -/
theorem pass_of_satisfied (satisfied : survey.wanted? geolocating = none) :
    (survey.pass []).found.nodes = survey.found.nodes ∧
      (survey.pass []).locatedAhead geolocating = survey.locatedAhead geolocating := by
  unfold wanted? at satisfied
  unfold pass
  split
  · exact ⟨rfl, rfl⟩
  · next hop rest hops =>
    refine ⟨List.append_nil _, ?_⟩
    cases geolocating with
    | false => rfl
    | true =>
      rw [hops] at satisfied
      have unknown : first? survey.places = none := satisfied
      simp only [locatedAhead, if_true, hops, locatedHops_cons, unknown, Option.toList_none,
        List.map_nil, List.nil_append]

/-- At a hop with a place to ask about, the hop is the first one that is located. -/
theorem pass_of_wanted {place : Coordinates} (wanted : survey.wanted? geolocating = some place) :
    ∃ hop, survey.locatedAhead geolocating =
        (hop, place) :: (survey.pass []).locatedAhead geolocating ∧
      ∀ reply, (survey.pass (toldBy reply)).found.nodes =
          survey.found.nodes ++ attributesOfNodes [(hop, place)] [reply] ∧
        (survey.pass (toldBy reply)).locatedAhead geolocating =
          (survey.pass []).locatedAhead geolocating := by
  unfold wanted? at wanted
  cases geolocating with
  | false => cases wanted
  | true =>
    cases hops : survey.hops with
    | nil =>
      rw [hops] at wanted
      cases wanted
    | cons hop rest =>
      rw [hops] at wanted
      have known : first? survey.places = some place := wanted
      refine ⟨hop, ?_, fun reply => ⟨?_, ?_⟩⟩
      · simp only [locatedAhead, if_true, pass, hops, locatedHops_cons, known, Option.toList_some,
          List.map_cons, List.map_nil, List.singleton_append]
      · rw [← nodeAttributes_toldBy]
        simp only [pass, hops, Metadata.nodes_append]
      · simp only [locatedAhead, if_true, pass, hops]

/-- Where a survey stands: what it has found of nodes, which located hops are ahead, and how the
attributes of links are shared out. -/
structure Stands (geolocating : Bool) (survey : Survey) (nodes : List NodeAttribute)
    (ahead : List (Hop × Coordinates)) (links : List LinkAttribute) : Prop where
  nodes : survey.found.nodes = nodes
  ahead : survey.locatedAhead geolocating = ahead
  links : survey.found.links ++ survey.linksAhead = links

/-- **Going on as far as it can, a survey comes to the next located hop**, or to its end. -/
theorem Stands.advance {nodes : List NodeAttribute} {ahead : List (Hop × Coordinates)}
    {links : List LinkAttribute} (stands : survey.Stands geolocating nodes ahead links) :
    (survey.advance geolocating).Stands geolocating nodes ahead links ∧
      (survey.advance geolocating).wanted? geolocating = ahead.head?.map Prod.snd := by
  generalize length : survey.hops.length = count
  induction count generalizing survey with
  | zero =>
    have none : survey.hops = [] := List.length_eq_zero_iff.mp length
    have same : survey.advance geolocating = survey := by
      rw [Survey.advance, none]
      rfl
    rw [same]
    refine ⟨stands, ?_⟩
    rw [← stands.ahead, wanted?, locatedAhead, none, List.isEmpty_nil, Bool.not_true, Bool.and_false]
    cases geolocating <;> rfl
  | succ count hypothesis =>
    cases wanted : survey.wanted? geolocating with
    | some place =>
      obtain ⟨hop, here, _⟩ := pass_of_wanted wanted
      rw [advance_of_wanted wanted]
      refine ⟨stands, ?_⟩
      rw [wanted, ← stands.ahead, here]
      rfl
    | none =>
      obtain ⟨nodes, ahead⟩ := pass_of_satisfied wanted
      rw [advance_of_satisfied wanted]
      refine hypothesis ⟨nodes.trans stands.nodes, ahead.trans stands.ahead, ?_⟩ ?_
      · exact (links_pass []).trans stands.links
      · rw [hops_pass, List.length_tail, length, Nat.add_sub_cancel]

theorem attributesOfNodes_cons (first : Hop × Coordinates) (rest : List (Hop × Coordinates))
    (reply : Except CallFault (List String)) (replies : List (Except CallFault (List String))) :
    attributesOfNodes (first :: rest) (reply :: replies) =
      attributesOfNodes [first] [reply] ++ attributesOfNodes rest replies := by
  simp only [attributesOfNodes, List.zip_cons_cons, List.zip_nil_right, List.flatMap_cons,
    List.flatMap_nil, List.append_nil]

/-- **The tour with some answers stands at the located hop that is next**: it has found what was told
about the ones before. -/
theorem Stands.tour {nodes : List NodeAttribute} {ahead : List (Hop × Coordinates)}
    {links : List LinkAttribute} (stands : survey.Stands geolocating nodes ahead links)
    {replies : List (Except CallFault (List String))} (few : replies.length ≤ ahead.length) :
    (Survey.tour geolocating survey (replies.map toldBy)).Stands geolocating
        (nodes ++ attributesOfNodes ahead replies) (ahead.drop replies.length) links ∧
      (Survey.tour geolocating survey (replies.map toldBy)).wanted? geolocating =
        ahead[replies.length]?.map Prod.snd := by
  induction replies generalizing survey nodes ahead with
  | nil =>
    obtain ⟨there, wanted⟩ := stands.advance
    have none : attributesOfNodes ahead [] = [] := by
      rw [attributesOfNodes, List.zip_nil_right, List.flatMap_nil]
    rw [none, List.append_nil]
    exact ⟨there, wanted.trans (congrArg _ List.head?_eq_getElem?)⟩
  | cons reply rest hypothesis =>
    cases ahead with
    | nil => exact absurd few (Nat.not_succ_le_zero _)
    | cons first later =>
      obtain ⟨first, place⟩ := first
      obtain ⟨there, wanted⟩ := stands.advance
      obtain ⟨hop, here, told⟩ := pass_of_wanted wanted
      rw [there.ahead] at here
      obtain ⟨equal, same⟩ := List.cons.inj here
      cases equal
      obtain ⟨found, left⟩ := told reply
      rw [attributesOfNodes_cons, ← List.append_assoc, List.map_cons, Survey.tour]
      refine hypothesis ⟨?_, left.trans same.symm, ?_⟩ (Nat.le_of_succ_le_succ few)
      · rw [found, there.nodes]
      · exact (links_pass _).trans there.links

/-- A survey that is over has no links ahead. -/
theorem linksAhead_of_isOver (finished : survey.isOver = true) : survey.linksAhead = [] := by
  rw [linksAhead, List.isEmpty_iff.mp finished]
  rfl

/-- A tour that wants nothing more is over. -/
theorem isOver_tour {answers : List (List String)}
    (satisfied : (Survey.tour geolocating survey answers).wanted? geolocating = none) :
    (Survey.tour geolocating survey answers).isOver = true := by
  induction answers generalizing survey with
  | nil => exact isOver_of_satisfied satisfied
  | cons countries rest hypothesis => exact hypothesis satisfied

variable {candidate : Candidate} {replies : List (Except CallFault (List String))}

/-- **The place that the survey of a candidate wants to hear of** is that of the located hop that is
next. -/
theorem wanted_tour (few : replies.length ≤ (candidate.located geolocating).length) :
    (Survey.tour geolocating (ofCandidate candidate) (replies.map toldBy)).wanted? geolocating =
      (candidate.located geolocating)[replies.length]?.map Prod.snd := by
  have stands : (ofCandidate candidate).Stands geolocating [] (candidate.located geolocating)
      candidate.linkAttributes := ⟨rfl, rfl, rfl⟩
  exact (stands.tour few).2

/-- **A survey that has heard of all located hops is over, and has found the attributes of its
candidate.** -/
theorem tour_attributes (all : replies.length = (candidate.located geolocating).length) :
    (Survey.tour geolocating (ofCandidate candidate) (replies.map toldBy)).isOver = true ∧
      (Survey.tour geolocating (ofCandidate candidate) (replies.map toldBy)).found =
        candidate.attributes geolocating replies := by
  have stands : (ofCandidate candidate).Stands geolocating [] (candidate.located geolocating)
      candidate.linkAttributes := ⟨rfl, rfl, rfl⟩
  obtain ⟨there, wanted⟩ := stands.tour (Nat.le_of_eq all)
  rw [all, List.getElem?_eq_none (Nat.le_refl _)] at wanted
  have finished := isOver_tour wanted
  have nodes := there.nodes
  have links := there.links
  rw [linksAhead_of_isOver finished, List.append_nil] at links
  rw [List.nil_append] at nodes
  refine ⟨finished, ?_⟩
  rw [Candidate.attributes, Candidate.nodeAttributes, ← nodes, ← links]

end Survey

end Wayfinder
