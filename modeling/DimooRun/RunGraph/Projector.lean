/-
  RunGraph/Projector.lean --- `run_graph/projector.py`: the graph of a run, from its events.

  A node is made by the first event of its key or by the first event that names it as the
  parent, and numbered then. The run and the attempt, which every node repeats, and what
  is the same for all edges are left out.
-/
import DimooRun.Streaming.ReplayBuffer

set_option autoImplicit false

namespace DimooRun.RunGraph

open Foundation Streaming

/-- The statuses of nodes; the projector gives none the status `failed`. -/
inductive NodeStatus where
  | running | succeeded | failed | observed
  deriving DecidableEq

structure RunGraphNode where
  id : Nat
  nodeKey : String
  nodeType : String
  name : String
  status : NodeStatus
  latencyMs : PyValue := .none
  inputRef : PyValue := .none
  outputRef : PyValue := .none
  sourceEventType : String

structure RunGraphEdge where
  id : Nat
  sourceNodeKey : String
  targetNodeKey : String
  sourceNodeId : Nat
  targetNodeId : Nat

/-- The graph, with the next numbers. -/
structure Graph where
  nodes : Dict String RunGraphNode := .empty
  edges : List RunGraphEdge := []
  nextNodeId : Nat := 1
  nextEdgeId : Nat := 1

/-- `text.endswith(ending)`. -/
def endsWith (text ending : String) : Bool := ending.toList.isSuffixOf text.toList

/-- `_node_type`. -/
def nodeType (eventType : String) : String :=
  let types := [("model.", "model"), ("tool.", "tool"), ("retriever.", "retriever"),
    ("ranker.", "ranker"), ("generator.", "generator"), ("router.", "router"), ("human", "human")]
  ((types.find? fun e => startsWith eventType e.1).map Prod.snd).getD "custom"

section

variable (py : Builtins)

def nodeKey (event : AgentEvent) : String :=
  py.str ((event.payload.get "node_key").orElse (.str event.type))

def parentKey (event : AgentEvent) : Option String :=
  match event.payload.get "parent_node_key" with
  | .none => none
  | value => some (py.str value)

/-- The node that an event makes. -/
def ownNode (event : AgentEvent) (id : Nat) : RunGraphNode where
  id := id
  nodeKey := nodeKey py event
  nodeType := nodeType event.type
  name := py.str ((event.payload.get "name").orElse (.str (nodeKey py event)))
  status := if endsWith event.type ".started" then .running else .succeeded
  inputRef := event.payload.get "input_ref"
  outputRef := event.payload.get "output_ref"
  sourceEventType := event.type

/-- The node that is made for a parent. -/
def inferredParent (key : String) (id : Nat) : RunGraphNode where
  id := id
  nodeKey := key
  nodeType := "custom"
  name := key
  status := .observed
  sourceEventType := "inferred.parent"

def RunGraphNode.complete (node : RunGraphNode) (payload : PyDict) : RunGraphNode :=
  { node with
    status := .succeeded
    outputRef := (payload.get? "output_ref").getD node.outputRef
    latencyMs := (payload.get? "latency_ms").getD node.latencyMs }

namespace Graph

variable (graph : Graph) (event : AgentEvent)

/-- The node with a key, which is made if there is none. -/
def nodeFor (key : String) (new : Nat → RunGraphNode) : RunGraphNode × Graph :=
  match graph.nodes.get? key with
  | some node => (node, graph)
  | none =>
      let node := new graph.nextNodeId
      (node, { graph with
        nodes := graph.nodes.set key node
        nextNodeId := graph.nextNodeId + 1 })

/-- The node of an event. -/
def ownFor : RunGraphNode × Graph :=
  let (node, graph) := graph.nodeFor (nodeKey py event) (ownNode py event)
  if endsWith event.type ".completed" then
    let node := node.complete event.payload
    (node, { graph with nodes := graph.nodes.set (nodeKey py event) node })
  else (node, graph)

/-- The body of the loop. -/
def add : Graph :=
  let (node, graph) := graph.ownFor py event
  match parentKey py event with
  | none => graph
  | some key =>
      let (parent, graph) := graph.nodeFor key (inferredParent key)
      { graph with
        edges := graph.edges ++ [⟨graph.nextEdgeId, key, nodeKey py event, parent.id, node.id⟩]
        nextEdgeId := graph.nextEdgeId + 1 }

end Graph

/-- `RunGraphProjector.project`. -/
def project (events : List AgentEvent) : Graph := events.foldl (Graph.add py) {}

end

namespace Graph

variable {py : Builtins} {graph graph' : Graph} {key : String} {node : RunGraphNode}
  {nodes : Dict String RunGraphNode} {events : List AgentEvent} {event : AgentEvent}

/-! ## Well-formed graphs -/

/-- The keys and numbers of nodes. -/
def labels (nodes : Dict String RunGraphNode) : List (String × Nat) :=
  nodes.values.map fun node => (node.nodeKey, node.id)

/-- Each node has the key it is stored under, and the numbers are those from one on. -/
structure Numbered (graph : Graph) : Prop where
  keys : ∀ key node, graph.nodes.get? key = some node → node.nodeKey = key
  ids : (labels graph.nodes).map Prod.snd = List.range' 1 (labels graph.nodes).length
  next : graph.nextNodeId = (labels graph.nodes).length + 1

/-- The graph has a node with the key, besides the nodes it had. -/
structure Grows (graph graph' : Graph) (key : String) (node : RunGraphNode) : Prop where
  numbered : Numbered graph'
  found : graph'.nodes.get? key = some node
  old : labels graph.nodes ⊆ labels graph'.nodes
  only : ∀ label ∈ labels graph'.nodes, label.1 = key ∨ label ∈ labels graph.nodes
  edges : graph'.edges = graph.edges

theorem Numbered.mem_labels (h : Numbered graph) (hget : graph.nodes.get? key = some node) :
    (key, node.id) ∈ labels graph.nodes := by
  refine List.mem_map.mpr ⟨node, (Dict.mem_values_iff _).mpr ⟨key, hget⟩, ?_⟩
  rw [h.keys key node hget]

theorem grows_nodeFor (h : Numbered graph) (key : String) (new : Nat → RunGraphNode)
    (hnew : ∀ id, (new id).id = id ∧ (new id).nodeKey = key) :
    Grows graph (graph.nodeFor key new).2 key (graph.nodeFor key new).1 := by
  unfold nodeFor
  cases hget : graph.nodes.get? key with
  | some node => exact ⟨h, hget, fun _ => id, fun _ => .inr, rfl⟩
  | none =>
    obtain ⟨hid, hkey⟩ := hnew graph.nextNodeId
    have hlabels : labels (graph.nodes.set key (new graph.nextNodeId)) =
        labels graph.nodes ++ [(key, graph.nextNodeId)] := by
      simp [labels, Dict.values, Dict.entries_set_of_none _ hget, hkey, hid]
    refine ⟨⟨Dict.forall_get?_set hkey h.keys, ?_, ?_⟩, Dict.get?_set_self _ _ _, ?_, ?_, rfl⟩
    · simp only [hlabels]
      simp [h.ids, h.next, List.range'_1_concat, Nat.add_comm 1]
    · simp [hlabels, ← h.next]
    · simp [hlabels]
    · simp only [hlabels, List.mem_append, List.mem_singleton]
      rintro label (hold | rfl)
      · exact .inr hold
      · exact .inl rfl

theorem grows_ownFor (py : Builtins) (h : Numbered graph) (event : AgentEvent) :
    Grows graph (graph.ownFor py event).2 (nodeKey py event) (graph.ownFor py event).1 := by
  have hgrows := grows_nodeFor h (nodeKey py event) (ownNode py event) fun _ => ⟨rfl, rfl⟩
  unfold ownFor
  dsimp only
  split
  swap
  · exact hgrows
  -- the node is replaced by one with the same key and number
  obtain ⟨⟨hkeys, hids, hnext⟩, hfound, hold, honly, hedges⟩ := hgrows
  generalize graph.nodeFor (nodeKey py event) (ownNode py event) = made at *
  have hlabels : labels (made.2.nodes.set (nodeKey py event) (made.1.complete event.payload)) =
      labels made.2.nodes := by
    simp only [labels, Dict.values, List.map_map]
    exact Dict.map_setEntries hfound rfl
  refine ⟨⟨Dict.forall_get?_set (hkeys _ _ hfound :) hkeys, ?_, ?_⟩, Dict.get?_set_self _ _ _, ?_, ?_,
    hedges⟩
  all_goals simpa only [hlabels]

/-- What the graph has of the events that were read. -/
structure WellFormed (py : Builtins) (events : List AgentEvent) (graph : Graph) : Prop where
  numbered : Numbered graph
  named : ∀ key, (∃ id, (key, id) ∈ labels graph.nodes) ↔
    ∃ event ∈ events, nodeKey py event = key ∨ parentKey py event = some key
  ends : ∀ edge ∈ graph.edges, (edge.sourceNodeKey, edge.sourceNodeId) ∈ labels graph.nodes ∧
    (edge.targetNodeKey, edge.targetNodeId) ∈ labels graph.nodes
  edges : graph.edges.map (fun edge => (edge.sourceNodeKey, edge.targetNodeKey)) =
    events.filterMap fun event => (parentKey py event).map fun key => (key, nodeKey py event)

theorem Grows.named (h : Grows graph graph' key node) (k : String) :
    (∃ id, (k, id) ∈ labels graph'.nodes) ↔ k = key ∨ ∃ id, (k, id) ∈ labels graph.nodes := by
  constructor
  · rintro ⟨id, hid⟩
    exact (h.only _ hid).imp_right fun hold => ⟨id, hold⟩
  · rintro (rfl | ⟨id, hid⟩)
    · exact ⟨_, h.numbered.mem_labels h.found⟩
    · exact ⟨id, h.old hid⟩

theorem WellFormed.add (h : WellFormed py events graph) (event : AgentEvent) :
    WellFormed py (events ++ [event]) (graph.add py event) := by
  have hown := grows_ownFor py h.numbered event
  unfold Graph.add
  dsimp only
  generalize graph.ownFor py event = made at hown
  cases hparent : parentKey py event with
  | none =>
    refine ⟨hown.numbered, fun k => ?_, fun edge hedge => ?_, ?_⟩
    · rw [hown.named, h.named]
      simp [hparent, or_comm, eq_comm, or_and_right, exists_or]
    · rw [hown.edges] at hedge
      exact (h.ends edge hedge).imp (hown.old ·) (hown.old ·)
    · rw [hown.edges, h.edges]
      simp [hparent]
  | some key =>
    have hparentGrows := grows_nodeFor hown.numbered key (inferredParent key) fun _ => ⟨rfl, rfl⟩
    dsimp only
    generalize made.2.nodeFor key (inferredParent key) = parent at hparentGrows
    refine ⟨⟨hparentGrows.numbered.keys, hparentGrows.numbered.ids, hparentGrows.numbered.next⟩,
      fun k => ?_, ?_, ?_⟩
    · refine (hparentGrows.named k).trans ?_
      rw [hown.named, h.named]
      simp [hparent, or_and_right, exists_or, @eq_comm _ k]
      grind
    · simp only [hparentGrows.edges, hown.edges, List.forall_mem_append, List.forall_mem_singleton]
      refine ⟨fun edge hedge => ?_, hparentGrows.numbered.mem_labels hparentGrows.found, ?_⟩
      · exact (h.ends edge hedge).imp (hparentGrows.old <| hown.old ·)
          (hparentGrows.old <| hown.old ·)
      · exact hparentGrows.old (hown.numbered.mem_labels hown.found)
    · simp [hparentGrows.edges, hown.edges, h.edges, hparent]

theorem wellFormed_project (py : Builtins) (events : List AgentEvent) :
    WellFormed py events (project py events) := by
  induction events using List.reverseRecOn with
  | nil => exact ⟨⟨fun _ _ h => (by cases h), rfl, rfl⟩,
      by simp [project, labels, Dict.values, Dict.empty], by simp [project], rfl⟩
  | append_singleton events event ih =>
    rw [project, List.foldl_append]
    exact ih.add event

theorem extends_add (py : Builtins) (h : Numbered graph) (event : AgentEvent) :
    labels graph.nodes ⊆ labels (graph.add py event).nodes ∧
      graph.edges <+: (graph.add py event).edges := by
  have hown := grows_ownFor py h event
  unfold Graph.add
  dsimp only
  generalize graph.ownFor py event = made at hown
  cases parentKey py event with
  | none => exact ⟨hown.old, by rw [hown.edges]⟩
  | some key =>
    have hparent := grows_nodeFor hown.numbered key (inferredParent key) fun _ => ⟨rfl, rfl⟩
    refine ⟨List.Subset.trans hown.old hparent.old, ?_⟩
    simp [hparent.edges, hown.edges]

/-- More events only extend the graph: nodes keep key and id, and edges keep their places. -/
theorem run_graph_extends (py : Builtins) (events more : List AgentEvent) :
    labels (project py events).nodes ⊆ labels (project py (events ++ more)).nodes ∧
      (project py events).edges <+: (project py (events ++ more)).edges := by
  induction more using List.reverseRecOn with
  | nil => simp
  | append_singleton more event ih =>
    have hadd := extends_add py (wellFormed_project py (events ++ more)).numbered event
    rw [← List.append_assoc, project, project, List.foldl_append]
    exact ⟨List.Subset.trans ih.1 hadd.1, ih.2.trans hadd.2⟩

end Graph

/-- The nodes are numbered from one on and have distinct keys, those of the events and of their
parents; the edges connect nodes with the keys they state, one for each event that names a
parent. -/
theorem run_graph_well_formed (py : Builtins) (events : List AgentEvent) :
    let graph := project py events
    graph.nodes.values.map RunGraphNode.id = List.range' 1 graph.nodes.values.length ∧
      (graph.nodes.values.map RunGraphNode.nodeKey).Nodup ∧
      (∀ key, (∃ node ∈ graph.nodes.values, node.nodeKey = key) ↔
        ∃ event ∈ events, nodeKey py event = key ∨ parentKey py event = some key) ∧
      (∀ edge ∈ graph.edges,
        (∃ source ∈ graph.nodes.values, source.nodeKey = edge.sourceNodeKey ∧
          source.id = edge.sourceNodeId) ∧
        ∃ target ∈ graph.nodes.values, target.nodeKey = edge.targetNodeKey ∧
          target.id = edge.targetNodeId) ∧
      graph.edges.map (fun edge => (edge.sourceNodeKey, edge.targetNodeKey)) =
        events.filterMap fun event =>
          (parentKey py event).map fun key => (key, nodeKey py event) := by
  intro graph
  obtain ⟨⟨hkeys, hids, _⟩, hnamed, hends, hedges⟩ := Graph.wellFormed_project py events
  refine ⟨?_, ?_, fun key => ?_, ?_, hedges⟩
  · simpa [Graph.labels, Function.comp_def] using hids
  · have hmap : graph.nodes.values.map RunGraphNode.nodeKey = graph.nodes.keys := by
      rw [Dict.values, List.map_map]
      exact List.map_congr_left fun e he => hkeys e.1 e.2 ((Dict.get?_eq_some_iff _).mpr he)
    exact hmap ▸ graph.nodes.nodup
  · simpa [Graph.labels] using hnamed key
  · simpa [Graph.labels] using hends

/-! ## Statuses -/

section

variable (py : Builtins) (key : String)

/-- The status that belongs to a type of events. -/
def lifecycle (eventType : String) : Option NodeStatus :=
  if endsWith eventType ".started" then some .running
  else if endsWith eventType ".completed" then some .succeeded
  else if endsWith eventType ".failed" then some .failed
  else none

/-- The status of the last of a node's own events that have one. -/
def lastStatus (events : List AgentEvent) : Option NodeStatus :=
  ((events.filter (key = nodeKey py ·)).filterMap fun event => lifecycle event.type).getLast?

/-- The status that is shown. -/
def Graph.shown (graph : Graph) : Option NodeStatus :=
  (graph.nodes.get? key).map RunGraphNode.status

def completes (event : AgentEvent) : Bool :=
  key = nodeKey py event && endsWith event.type ".completed"

def mentions (event : AgentEvent) : Bool :=
  key = nodeKey py event || parentKey py event = some key

/-- The status after the first mention. -/
def firstStatus (event : AgentEvent) : NodeStatus :=
  if key = nodeKey py event then (ownNode py event 0).status else .observed

variable {py key} {graph : Graph} {events : List AgentEvent} {event : AgentEvent}

theorem firstStatus_eq_running_iff : firstStatus py key event = .running ↔
    key = nodeKey py event ∧ endsWith event.type ".started" := by
  by_cases hkey : key = nodeKey py event <;> by_cases hend : endsWith event.type ".started" <;>
    simp [firstStatus, ownNode, hkey, hend]

theorem firstStatus_ne_failed : firstStatus py key event ≠ .failed := by
  by_cases hkey : key = nodeKey py event <;> by_cases hend : endsWith event.type ".started" <;>
    simp [firstStatus, ownNode, hkey, hend]

theorem shown_nodeFor (graph : Graph) (key key' : String) (new : Nat → RunGraphNode) :
    (graph.nodeFor key' new).2.shown key =
      if key = key' then some ((graph.shown key).getD (new graph.nextNodeId).status)
      else graph.shown key := by
  unfold Graph.nodeFor Graph.shown
  by_cases hkey : key = key'
  · subst hkey
    cases hget : graph.nodes.get? key <;> simp [hget]
  · cases hget : graph.nodes.get? key' <;> simp [hkey, Dict.get?_set]

theorem shown_ownFor (py : Builtins) (graph : Graph) (key : String) (event : AgentEvent) :
    (graph.ownFor py event).2.shown key =
    if completes py key event then some .succeeded
    else if key = nodeKey py event then
      some ((graph.shown key).getD (ownNode py event 0).status)
    else graph.shown key := by
  have hown := shown_nodeFor graph key (nodeKey py event) (ownNode py event)
  unfold Graph.ownFor completes
  by_cases hkey : key = nodeKey py event <;> by_cases hend : endsWith event.type ".completed" <;>
    simp_all [Graph.shown, Dict.get?_set, ownNode, RunGraphNode.complete]

theorem shown_add : (graph.add py event).shown key =
    if completes py key event then some .succeeded
    else if mentions py key event then some ((graph.shown key).getD (firstStatus py key event))
    else graph.shown key := by
  have hown := shown_ownFor py graph key event
  unfold Graph.add mentions firstStatus
  cases hparent : parentKey py event with
  | none => simpa +contextual using hown
  | some parent =>
    refine (shown_nodeFor _ key parent (inferredParent parent)).trans ?_
    rw [hown]
    by_cases hkey : key = nodeKey py event <;> by_cases hp : key = parent <;>
      simp_all [completes, inferredParent, Ne.symm]
    all_goals split <;> simp

theorem shown_project : (project py events).shown key =
    if events.any (completes py key) then some .succeeded
    else (events.find? (mentions py key)).map (firstStatus py key) := by
  induction events using List.reverseRecOn with
  | nil => rfl
  | append_singleton events event ih =>
    rw [project, List.foldl_append]
    refine shown_add.trans ?_
    rw [← project, ih]
    by_cases hany : events.any (completes py key) <;> cases hfind : events.find? (mentions py key)
    all_goals
      by_cases hcompletes : completes py key event <;> by_cases hmentions : mentions py key event
    all_goals simp [hany, hfind, hcompletes, hmentions]

/-- The status that is shown is that of the last lifecycle event exactly if this is a completion,
or is a start and the node was first mentioned by a start of it and never completed. -/
theorem shown_eq_last_iff (py : Builtins) (events : List AgentEvent) (key : String) :
    (∀ status, lastStatus py key events = some status →
        (project py events).shown key = some status) ↔
      ∀ status, lastStatus py key events = some status → status = .succeeded ∨
        status = .running ∧ events.any (completes py key) = false ∧
          ∃ first, events.find? (mentions py key) = some first ∧ key = nodeKey py first ∧
            endsWith first.type ".started" := by
  refine forall_congr' fun status => imp_congr_right fun hlast => ?_
  obtain ⟨event, hmem, hstatus⟩ := List.mem_filterMap.mp (List.mem_of_getLast? hlast)
  rw [List.mem_filter, decide_eq_true_iff] at hmem
  rw [shown_project]
  unfold lifecycle at hstatus
  split at hstatus
  · cases hstatus
    cases events.any (completes py key) <;> simp [firstStatus_eq_running_iff]
  split at hstatus
  · cases hstatus
    have : events.any (completes py key) = true :=
      List.any_eq_true.mpr ⟨event, hmem.1, by simp [completes, *]⟩
    simp [this]
  · split at hstatus
    · cases hstatus
      cases events.any (completes py key) <;> simp [firstStatus_ne_failed]
    · cases hstatus

/-- A tool call that fails is shown as a success. -/
theorem failure_shown_as_success :
    lastStatus .simple "tool.failed" [⟨"tool.failed", [], none, none, none, none, none, ""⟩] =
        some .failed ∧
      (project .simple [⟨"tool.failed", [], none, none, none, none, none, ""⟩]).shown "tool.failed" =
        some .succeeded := by
  decide

end

end DimooRun.RunGraph
