import Gateway.Proofs.Dispatch.Choosing
import Mathlib.Data.List.Count
import Mathlib.Data.List.Rotate

namespace Gateway

/-! Round robin is fair. Its picks on a cluster go around the list of candidates, from
where the cursor of the cluster stands, whatever happens to other clusters and to counts
of requests. -/

section Cycle

variable {α : Type}

/-- What going around a list comes across, from a position that may lie beyond its end. -/
def cycle (list : List α) (start turns : Nat) : List (Option α) :=
  (List.range turns).map fun turn => list[(start + turn) % list.length]?

@[simp] theorem length_cycle (list : List α) (start turns : Nat) :
    (cycle list start turns).length = turns := by
  simp [cycle]

private theorem cycle_add (list : List α) (start turns more : Nat) :
    cycle list start (turns + more) = cycle list start turns ++
      cycle list (start + turns) more := by
  simp [cycle, List.range_add, Nat.add_assoc]

private theorem cycle_succ (list : List α) (start turns : Nat) :
    cycle list start (turns + 1) =
      list[start % list.length]? :: cycle list (start + 1) turns := by
  rw [Nat.add_comm, cycle_add]
  rfl

theorem cycle_length (list : List α) (start : Nat) :
    cycle list start list.length = (list.rotate start).map some := by
  apply List.ext_getElem
  · simp
  · intro turn before _
    have inside : turn < list.length := by simpa using before
    have found : (start + turn) % list.length < list.length := Nat.mod_lt _ (by omega)
    simp only [cycle, List.getElem_map, List.getElem_range, List.getElem_rotate]
    rw [Nat.add_comm turn start, List.getElem?_eq_getElem found]

private theorem window_cycle (list : List α) (start : Nat) {turns position : Nat}
    (within : position + list.length ≤ turns) :
    ((cycle list start turns).drop position).take list.length =
      (list.rotate (start + position)).map some := by
  rcases Nat.exists_eq_add_of_le within with ⟨rest, rfl⟩
  rw [Nat.add_assoc, cycle_add, List.drop_left' (length_cycle ..), cycle_add,
    List.take_left' (length_cycle ..), cycle_length]

variable [DecidableEq α]

private theorem count_round (list : List α) (start : Nat) (item : α) :
    (cycle list start list.length).count (some item) = list.count item := by
  rw [cycle_length, List.count_map_of_injective _ _ (fun _ _ => Option.some.inj)]
  exact (List.rotate_perm list start).count_eq item

theorem count_rounds (list : List α) (start rounds : Nat) {rest : Nat}
    (within : rest ≤ list.length) (item : α) :
    let count := (cycle list start (rounds * list.length + rest)).count (some item)
    rounds * list.count item ≤ count ∧ count ≤ (rounds + 1) * list.count item := by
  induction rounds generalizing start with
  | zero =>
      have round := count_round list start item
      rcases Nat.exists_eq_add_of_le within with ⟨missing, whole⟩
      rw [whole, cycle_add, List.count_append] at round
      simp only [Nat.zero_mul, Nat.zero_add, Nat.one_mul]
      omega
  | succ rounds induction =>
      have turns : (rounds + 1) * list.length + rest =
          list.length + (rounds * list.length + rest) := by
        rw [Nat.succ_mul]
        omega
      have later := induction (start + list.length)
      simp only [turns, cycle_add list start list.length, List.count_append, count_round]
      rw [Nat.succ_mul (rounds + 1), Nat.succ_mul rounds]
      rw [Nat.succ_mul rounds] at later
      omega

private theorem count_cycle {list : List α} (inhabited : list ≠ []) (start turns : Nat)
    (item : α) :
    turns / list.length * list.count item ≤ (cycle list start turns).count (some item) ∧
      (cycle list start turns).count (some item) ≤
        (turns / list.length + 1) * list.count item := by
  have rest : turns % list.length ≤ list.length :=
    Nat.le_of_lt (Nat.mod_lt _ (List.length_pos_of_ne_nil inhabited))
  have counted := count_rounds list start (turns / list.length) rest item
  rw [Nat.mul_comm, Nat.div_add_mod] at counted
  exact counted

end Cycle

namespace Router

variable {router : Router} {ref : ClusterRef} {cluster : Cluster}

/-- Asks a load balancer for one of some candidates, on its turn at a cluster. -/
def ask (router : Router) (ref : ClusterRef) (balancer : LoadBalancer)
    (candidates : List Candidate) : Router × Option Candidate :=
  match router.cluster? ref with
  | none => (router, none)
  | some cluster =>
      let turn := { cursor := cluster.cursor, draws := router.draws }
      let (chosen, turn) := balancer.pick turn candidates
      ({ router.setCluster ref { cluster with cursor := turn.cursor } with
          draws := turn.draws }, chosen)

theorem value_pick_of_select (present : router.cluster? ref = some cluster)
    {model : ClusterModel} {request : Http.Request} {selection : Selection}
    (selected : (cluster.select model request).value = .ok selection)
    (several : 2 ≤ selection.candidates.length) :
    let asked := router.ask ref model.loadBalancing selection.candidates
    (router.pick ref model cluster request).value =
      (asked.1, asked.2.elim (.error .unavailable) fun candidate =>
        .ok { candidate, status := selection.status }) := by
  have balanced : ∀ turn, Cluster.balance model.loadBalancing turn selection.candidates =
      model.loadBalancing.pick turn selection.candidates := by
    intro turn
    match selection.candidates, several with
    | _ :: _ :: _, _ => rfl
  have picked : ∀ turn, (cluster.pick model request turn).value =
      ((model.loadBalancing.pick turn selection.candidates).1.elim (.error .unavailable)
        fun candidate => .ok { candidate, status := selection.status },
        (model.loadBalancing.pick turn selection.candidates).2) := by
    intro turn
    simp only [Cluster.pick, Traced.value_bind, selected, balanced]
    cases (model.loadBalancing.pick turn selection.candidates).1 <;> rfl
  have whole := value_pick router ref model cluster request
  simp only [picked] at whole
  simp only [ask, present]
  exact whole

/-- What may happen at the clusters of a gateway: a pick, or anything else that is done to
a cluster. -/
inductive Happening where
  | pick (ref : ClusterRef) (balancer : LoadBalancer) (candidates : List Candidate)
  | alter (ref : ClusterRef) (change : Cluster → Cluster)

namespace Happening

def picksOn (ref : ClusterRef) : Happening → Bool
  | .pick other _ _ => decide (other = ref)
  | .alter _ _ => false

/-- All picks on a cluster are round robin, among candidates for the same records in
whatever state they are, and nothing else moves its cursor. At other clusters anything may
happen. -/
def Fits (ref : ClusterRef) (records : List Nat) : Happening → Prop
  | .pick other balancer candidates =>
      other = ref → balancer = .roundRobin ∧ candidates.map Candidate.record = records
  | .alter other change =>
      other = ref → ∀ cluster, (change cluster).cursor = cluster.cursor

variable {ref : ClusterRef} {records : List Nat} {happening : Happening}

private theorem of_picksOn (fits : happening.Fits ref records)
    (picks : happening.picksOn ref = true) :
    ∃ candidates, happening = .pick ref .roundRobin candidates ∧
      candidates.map Candidate.record = records := by
  cases happening with
  | pick target balancer candidates =>
      have here : target = ref := of_decide_eq_true picks
      subst here
      rcases fits rfl with ⟨rfl, same⟩
      exact ⟨candidates, rfl, same⟩
  | alter target change => cases picks

end Happening

def happen (router : Router) : Happening → Router × Option Candidate
  | .pick ref balancer candidates => router.ask ref balancer candidates
  | .alter ref change => (router.mapCluster ref change, none)

def answers (ref : ClusterRef) : Router → List Happening → List (Option Nat)
  | _, [] => []
  | router, happening :: later =>
      let next := router.happen happening
      if happening.picksOn ref then
        next.2.map Candidate.record :: answers ref next.1 later
      else answers ref next.1 later

private theorem length_answers (ref : ClusterRef) (run : List Happening) :
    ∀ router : Router,
      (router.answers ref run).length = run.countP (Happening.picksOn ref) := by
  induction run with
  | nil => exact fun _ => rfl
  | cons happening later induction =>
      intro router
      rw [answers, List.countP_cons]
      split
      · rw [List.length_cons, induction]
      · exact induction _

private theorem answers_eq_nil {run : List Happening}
    (unasked : run.countP (Happening.picksOn ref) = 0) :
    router.answers ref run = [] :=
  List.eq_nil_of_length_eq_zero ((length_answers ref run router).trans unasked)

section Step

variable (present : router.cluster? ref = some cluster) {records : List Nat}

include present

theorem happen_pick (inhabited : records ≠ []) {candidates : List Candidate}
    (same : candidates.map Candidate.record = records) :
    let picked := router.happen (.pick ref .roundRobin candidates)
    picked.1.cluster? ref = some { cluster with cursor := cluster.cursor + 1 } ∧
      picked.2.map Candidate.record =
        records[cluster.cursor.toNat % records.length]? := by
  have some_left : candidates.isEmpty = false := by
    rw [List.isEmpty_eq_false_iff]
    rintro rfl
    exact inhabited same.symm
  subst same
  simp only [happen, ask, present, LoadBalancer.roundRobin, some_left]
  constructor
  · exact (cluster?_setCluster present _ ref).trans (if_pos rfl)
  · simp

theorem happen_other {happening : Happening} (fits : happening.Fits ref records)
    (other : happening.picksOn ref = false) :
    ∃ after, (router.happen happening).1.cluster? ref = some after ∧
      after.cursor = cluster.cursor := by
  cases happening with
  | pick target balancer candidates =>
      have elsewhere : ref ≠ target := fun same => by
        simp [Happening.picksOn, same] at other
      refine ⟨cluster, ?_, rfl⟩
      rw [happen, ask]
      cases there : router.cluster? target with
      | none => exact present
      | some _ =>
          exact ((cluster?_setCluster there _ ref).trans (if_neg elsewhere)).trans present
  | alter target change =>
      have changed := cluster?_mapCluster router target change ref
      split at changed
      · rename_i here
        subst here
        rw [present] at changed
        exact ⟨change cluster, changed, fits rfl cluster⟩
      · exact ⟨cluster, changed.trans present, rfl⟩

end Step

theorem answers_eq_cycle {records : List Nat} (inhabited : records ≠ [])
    {run : List Happening} :
    ∀ {router : Router} {cluster : Cluster}, router.cluster? ref = some cluster →
      (∀ happening ∈ run, happening.Fits ref records) →
      cluster.cursor.toNat + run.countP (Happening.picksOn ref) ≤ UInt64.size →
      router.answers ref run =
        cycle records cluster.cursor.toNat (run.countP (Happening.picksOn ref)) := by
  -- All that is carried along is that the cluster is there, and where its cursor stands.
  induction run with
  | nil => exact fun _ _ _ => rfl
  | cons happening later induction =>
      intro router cluster present fits unwrapped
      rcases List.forall_mem_cons.1 fits with ⟨first, others⟩
      rw [answers]
      cases picks : happening.picksOn ref with
      | false =>
          rcases happen_other present first picks with ⟨after, there, same⟩
          rw [List.countP_cons_of_neg (by simp [picks])] at unwrapped ⊢
          rw [← same] at unwrapped ⊢
          exact induction there others unwrapped
      | true =>
          rcases Happening.of_picksOn first picks with ⟨candidates, rfl, same⟩
          rcases happen_pick present inhabited same with ⟨there, chosen⟩
          rw [List.countP_cons_of_pos picks] at unwrapped ⊢
          simp only [if_true, cycle_succ, chosen]
          congr 1
          rcases Nat.eq_zero_or_pos (later.countP (Happening.picksOn ref)) with
            last | more
          · -- The cursor may wrap on the last pick, which then nothing follows.
            rw [answers_eq_nil last, last]
            rfl
          · have next : (cluster.cursor + 1).toNat = cluster.cursor.toNat + 1 := by
              rw [UInt64.toNat_add]
              exact Nat.mod_eq_of_lt
                (by change cluster.cursor.toNat + 1 < UInt64.size; omega)
            have rest := induction there others (by rw [next]; omega)
            rw [next] at rest
            exact rest

/-- Round robin is fair to the candidates for a list of records on a cluster, wherever its
cursor stands, for as many picks as the cursor does not wrap. The picks go around the
list; so every one of them is a candidate, as many in a row as the list is long are the
list in some order, and each record is picked as often as the list was finished, or once
more, for each time that it is listed. What happens at other clusters, and to anything but
the cursor, is of no account. -/
theorem round_robin_fair {router : Router} {ref : ClusterRef} {cluster : Cluster}
    (present : router.cluster? ref = some cluster) {records : List Nat}
    (inhabited : records ≠ []) {run : List Happening}
    (fits : ∀ happening ∈ run, happening.Fits ref records)
    (unwrapped : cluster.cursor.toNat + run.countP (Happening.picksOn ref) ≤
      UInt64.size) :
    let answers := router.answers ref run
    let turns := run.countP (Happening.picksOn ref)
    answers.length = turns ∧
    (∀ turn < turns, answers[turn]? =
      some records[(cluster.cursor.toNat + turn) % records.length]?) ∧
    (∀ answer ∈ answers, ∃ record ∈ records, answer = some record) ∧
    (∀ position, position + records.length ≤ turns →
      ((answers.drop position).take records.length).Perm (records.map some)) ∧
    (∀ record,
      turns / records.length * records.count record ≤ answers.count (some record) ∧
      answers.count (some record) ≤ (turns / records.length + 1) * records.count record) ∧
    (∀ left right, records.count left = 1 → records.count right = 1 →
      answers.count (some left) ≤ answers.count (some right) + 1) ∧
    (∀ (other : Router) (its : Cluster), other.cluster? ref = some its →
      its.cursor = cluster.cursor → ∀ otherRun : List Happening,
        (∀ happening ∈ otherRun, happening.Fits ref records) →
        otherRun.countP (Happening.picksOn ref) = turns →
          other.answers ref otherRun = answers) ∧
    ∀ model request selection, (cluster.select model request).value = .ok selection →
      2 ≤ selection.candidates.length →
      let asked := router.happen (.pick ref model.loadBalancing selection.candidates)
      (router.pick ref model cluster request).value =
        (asked.1, asked.2.elim (.error .unavailable) fun candidate =>
          .ok { candidate, status := selection.status }) := by
  intro answers turns
  have cyclic : answers = cycle records cluster.cursor.toNat turns :=
    answers_eq_cycle inhabited present fits unwrapped
  have counted := count_cycle inhabited cluster.cursor.toNat turns
  rw [← cyclic] at counted
  refine ⟨length_answers ref run router, fun turn within => ?_, fun answer member => ?_,
    fun position within => ?_, counted, fun left right once alsoOnce => ?_,
    fun other its there same otherRun otherFits asOften => ?_,
    fun model request selection => value_pick_of_select present⟩
  · rw [cyclic, cycle, List.getElem?_map, List.getElem?_range within]
    rfl
  · rw [cyclic, cycle] at member
    rcases List.mem_map.1 member with ⟨turn, -, rfl⟩
    have inside : (cluster.cursor.toNat + turn) % records.length < records.length :=
      Nat.mod_lt _ (List.length_pos_of_ne_nil inhabited)
    exact ⟨_, List.getElem_mem inside, List.getElem?_eq_getElem inside⟩
  · rw [cyclic, window_cycle records _ within]
    exact (List.rotate_perm records _).map some
  · have above := (counted left).2
    have below := (counted right).1
    rw [once] at above
    rw [alsoOnce] at below
    omega
  · rw [answers_eq_cycle inhabited there otherFits
      (by rw [same, asOften]; exact unwrapped), same,
      asOften]
    exact cyclic.symm

/-- Picks on two clusters that take turns, while requests are counted. -/
theorem round_robin_fair_among_siblings :
    let sibling : ClusterConfig := { Scene.sampleConfig with id := "sibling" }
    let router :=
      (Scene.sample.after [.configure sibling, .configure Scene.sampleConfig]).router
    let candidate (record : Nat) (requests : UInt64) : Candidate :=
      { record, destination :=
        { id := "a", config := { address := "http://10.0.0.1" }, requests } }
    let own (requests : UInt64) : Happening :=
      .pick Scene.sampleRef .roundRobin [candidate 0 requests, candidate 1 0]
    let elsewhere : Happening :=
      .pick { id := "sibling", incarnation := 0 } .roundRobin [candidate 0 0]
    let counted : Happening :=
      .alter Scene.sampleRef fun cluster => { cluster with requests := 7 }
    let run := [own 0, elsewhere, counted, elsewhere, own 7, elsewhere, own 7]
    ∃ cluster, router.cluster? Scene.sampleRef = some cluster ∧
      (∀ happening ∈ run, happening.Fits Scene.sampleRef [0, 1]) ∧
      cluster.cursor.toNat + run.countP (Happening.picksOn Scene.sampleRef) ≤
        UInt64.size ∧
      (router.answers Scene.sampleRef run)[2]? = some (some 0) := by
  intro sibling router candidate own elsewhere counted run
  have facts : (router.cluster? Scene.sampleRef).map Cluster.cursor = some 0 := by
    decide +kernel
  rcases Option.map_eq_some_iff.1 facts with ⟨cluster, present, unmoved⟩
  have ours (requests : UInt64) : (own requests).Fits Scene.sampleRef [0, 1] :=
    fun _ => ⟨rfl, rfl⟩
  have others : elsewhere.Fits Scene.sampleRef [0, 1] := fun same =>
      absurd same (by decide)
  have counting : counted.Fits Scene.sampleRef [0, 1] := fun _ _ => rfl
  have fits : ∀ happening ∈ run, happening.Fits Scene.sampleRef [0, 1] := by
    simp [run, ours, others, counting]
  have turns : run.countP (Happening.picksOn Scene.sampleRef) = 3 := by decide
  have unwrapped :
      cluster.cursor.toNat + run.countP (Happening.picksOn Scene.sampleRef) ≤
        UInt64.size := by
    rw [turns, unmoved]
    decide
  have fair := round_robin_fair present (by decide) fits unwrapped
  have third := fair.2.1 2 (by rw [turns]; decide)
  rw [unmoved] at third
  exact ⟨cluster, present, fits, unwrapped, third⟩

end Router

end Gateway
