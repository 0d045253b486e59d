import GuestSpec.Proofs.Naming.Backends
import GuestSpec.Proofs.Oracle.Steady

/-!
# Graphs of block nodes

The nodes of an image form one chain. The first node reaches the data, every other one reads from
the node before it, and the layers come in one order, each at most once. All nodes have the settings
of their image, and the device is attached to the last one. The graphs of different images share no
node.
-/

namespace GuestSpec

open Storage Guarantee

/-- Whether a node injects faults over another one rather than reaching data itself. -/
def ProtocolNode.injectsFaults : ProtocolNode → Bool
  | blkdebug .. => true
  | _ => false

/-- The position of a layer in a chain: what reaches the data, what injects faults, the format, what
copies what is read, and what limits the traffic. -/
def StorageNodeKind.level : StorageNodeKind → Nat
  | protocol node => if node.injectsFaults then 1 else 0
  | format _ => 2
  | filter (.copyOnRead _) => 3
  | filter (.throttle ..) => 4

/-- The graph of an image: a chain of nodes that starts at the data, goes from level to level, and
has the same settings throughout. -/
structure NodeGraph (readOnly : Bool) (cache : CacheMode) (nodes : List StorageNode) : Prop where
  data : ∃ n node, nodes.head? = some n ∧ n.kind = .protocol node ∧ node.injectsFaults = false ∧
    n.child? = none
  linked : nodes.IsChain fun below n => n.child? = some below.nodeName
  ordered : nodes.Pairwise fun below n => below.kind.level < n.kind.level
  settings : ∀ n ∈ nodes, n.readOnly = readOnly ∧ n.cache = cache.nodeCache

namespace NodeGraph

variable {readOnly : Bool} {cache : CacheMode} {nodes : List StorageNode} {n : StorageNode}

theorem singleton (name : String) {node : ProtocolNode} (hnode : node.injectsFaults = false) :
    NodeGraph readOnly cache [⟨name, readOnly, cache.nodeCache, .protocol node⟩] where
  data := by
    refine ⟨_, node, rfl, rfl, hnode, ?_⟩
    cases node with
    | blkdebug => cases hnode
    | _ => rfl
  linked := List.isChain_singleton _
  ordered := List.pairwise_singleton _ _
  settings := List.forall_mem_singleton.2 ⟨rfl, rfl⟩

theorem append (h : NodeGraph readOnly cache nodes)
    (hchild : ∀ last, nodes.getLast? = some last → n.child? = some last.nodeName)
    (hlevel : ∀ below ∈ nodes, below.kind.level < n.kind.level)
    (hreadOnly : n.readOnly = readOnly) (hcache : n.cache = cache.nodeCache) :
    NodeGraph readOnly cache (nodes ++ [n]) where
  data := by
    obtain ⟨first, node, hfirst, hdata⟩ := h.data
    refine ⟨first, node, ?_, hdata⟩
    rw [List.head?_append, hfirst, Option.some_or]
  linked := by
    refine List.isChain_append.2 ⟨h.linked, List.isChain_singleton n, fun last hlast m hm => ?_⟩
    obtain rfl : n = m := Option.some.inj hm
    exact hchild last hlast
  ordered := by
    refine List.pairwise_append.2 ⟨h.ordered, List.pairwise_singleton _ n, fun m hm k hk => ?_⟩
    obtain rfl := List.mem_singleton.1 hk
    exact hlevel m hm
  settings m hm := by
    obtain hm | hm := List.mem_append.1 hm
    · exact h.settings m hm
    · obtain rfl := List.mem_singleton.1 hm
      exact ⟨hreadOnly, hcache⟩

theorem ne_nil (h : NodeGraph readOnly cache nodes) : nodes ≠ [] := by
  rintro rfl
  obtain ⟨n, node, hn, -⟩ := h.data
  cases hn

end NodeGraph

/-! ## Locators -/

namespace Storage

theorem injectsFaults_ofPath (path : String) :
    attempt.Holds (ofPath path) fun node => node.injectsFaults = false := by
  have hreach : (ofPath.reach path).injectsFaults = false := by
    unfold ofPath.reach
    split <;> rfl
  unfold ofPath
  split
  · split
    · exact attempt.ret hreach
    · exact nofun
  · exact attempt.ret hreach

theorem injectsFaults_ofIscsi (authority path : String) :
    attempt.Holds (ofIscsi authority path) fun node => node.injectsFaults = false := by
  refine attempt.bind attempt_trivial fun _ => ?_
  split
  · exact nofun
  · split
    · exact nofun
    · exact attempt.bind attempt_trivial fun _ => attempt.ret fun _ _ => rfl

theorem injectsFaults_ofUrl (url scheme rest : String) :
    attempt.Holds (ofUrl url scheme rest) fun node => node.injectsFaults = false := by
  unfold ofUrl
  dsimp only
  split
  · exact attempt.bind attempt_trivial fun _ => attempt.ret fun _ => rfl
  · exact attempt.bind attempt_trivial fun _ => attempt.ret fun _ => rfl
  · exact injectsFaults_ofIscsi _ _
  · refine attempt.bind attempt_trivial fun _ => ?_
    exact attempt.bind attempt_trivial fun _ => attempt.ret fun _ _ => rfl
  · split
    · exact nofun
    · exact attempt.bind attempt_trivial fun _ => attempt.ret fun _ => rfl
  · split
    · exact nofun
    · split
      · exact nofun
      · exact attempt.ret rfl

theorem injectsFaults_ofLocator (s : String) :
    attempt.Holds (ofLocator s) fun node => node.injectsFaults = false := by
  unfold ofLocator
  split
  · exact attempt.bind attempt_trivial fun _ => attempt.ret fun _ => rfl
  · split
    · exact injectsFaults_ofUrl _ _ _
    · exact injectsFaults_ofPath s

/-- What is behind a wrapper reaches data, so wrappers are not nested. -/
theorem injectsFaults_classify {image file : String} {locator : Locator}
    (h : classify image file = .ok locator) : locator.data.injectsFaults = false := by
  obtain ⟨s, hs, -⟩ := ofLocator_of_classify h
  exact injectsFaults_ofLocator s _ hs

/-! ## Chains -/

/-- A chain whose nodes are a graph that has not come beyond a level. -/
structure Chain.Reaches (o : ImageOptions) (level : Nat) (c : Chain) : Prop where
  readOnly : c.readOnly = o.readOnly
  cache : c.cache = o.cache
  graph : NodeGraph o.readOnly o.cache c.nodes
  level_le : ∀ n ∈ c.nodes, n.kind.level ≤ level

namespace Chain.Reaches

variable {o : ImageOptions} {level : Nat} {c : Chain} {name : String}

theorem mono {level' : Nat} (h : c.Reaches o level) (hle : level ≤ level') : c.Reaches o level' :=
  { h with level_le := fun n hn => (h.level_le n hn).trans hle }

theorem start {node : ProtocolNode} (hnode : node.injectsFaults = false) :
    ((Chain.start o.readOnly o.cache).protocol name node).Reaches o 0 := by
  have hlevel : StorageNodeKind.level (.protocol node) = 0 := if_neg (by rw [hnode]; decide)
  exact ⟨rfl, rfl, .singleton name hnode, List.forall_mem_singleton.2 hlevel.le⟩

theorem push (h : c.Reaches o level) (name : String) (kind : StorageNodeKind)
    (hlevel : level < kind.level)
    (hchild : ∀ readOnly cache, StorageNode.child? ⟨name, readOnly, cache, kind⟩ = some c.top) :
    (c.push name kind).Reaches o kind.level where
  readOnly := h.readOnly
  cache := h.cache
  graph := by
    refine h.graph.append (fun last hlast => ?_) (fun n hn => (h.level_le n hn).trans_lt hlevel)
      h.readOnly (congrArg CacheMode.nodeCache h.cache)
    rw [hchild, top, hlast]
    rfl
  level_le n hn := by
    obtain hn | hn := List.mem_append.1 hn
    · exact (h.level_le n hn).trans hlevel.le
    · obtain rfl := List.mem_singleton.1 hn
      exact le_rfl

end Chain.Reaches

section Layered

variable (image : String) {locator : Locator} (o : ImageOptions) (rawAttach : Bool)
  (secretId : Option String) (hdata : locator.data.injectsFaults = false)

include hdata

theorem reaches_locate :
    ((Chain.start o.readOnly o.cache).locate image o.aio locator).Reaches o 1 := by
  have haio : ∀ node : ProtocolNode, (withAio o.aio node).injectsFaults = node.injectsFaults := by
    intro node
    cases node <;> rfl
  cases locator with
  | plain node =>
    refine Chain.Reaches.mono (.start ?_) (Nat.zero_le 1)
    rw [haio]
    exact hdata
  | blkdebug config inner =>
    have hinner : ((Chain.start o.readOnly o.cache).protocol ("file_" ++ image)
        (withAio o.aio inner)).Reaches o 0 := by
      refine .start ?_
      rw [haio]
      exact hdata
    exact hinner.push ("blkdebug_" ++ image) (.protocol (.blkdebug config _)) Nat.zero_lt_one
      fun _ _ => rfl

theorem reaches_contentChain : (contentChain image locator o rawAttach secretId).Reaches o 2 := by
  have h := reaches_locate image o hdata
  rw [contentChain]
  split
  · exact h.mono (Nat.le_succ 1)
  · exact h.push ("drive_" ++ image) (.format ⟨o.format, _, secretId⟩) (Nat.lt_succ_self 1)
      fun _ _ => rfl

theorem reaches_copiedChain : (copiedChain image locator o rawAttach secretId).Reaches o 3 := by
  have h := reaches_contentChain image o rawAttach secretId hdata
  rw [copiedChain]
  split
  · exact h.push ("cor_" ++ image) (.filter (.copyOnRead _)) (Nat.lt_succ_self 2) fun _ _ => rfl
  · exact h.mono (Nat.le_succ 2)

/-- The chain of an image is a graph with the settings of the image. -/
theorem nodeGraph_layeredBackend : ∃ nodes,
    layeredBackend image locator o rawAttach secretId = .layered nodes o.cache ∧
      NodeGraph o.readOnly o.cache nodes := by
  have h := reaches_copiedChain image o rawAttach secretId hdata
  rw [layeredBackend_eq]
  cases o.throttleGroup with
  | none => exact ⟨_, congrArg (StorageBackend.layered _) h.cache, h.graph⟩
  | some group =>
    have hpush := h.push ("throttle_" ++ image) (.filter (.throttle _ group)) (Nat.lt_succ_self 3)
      fun _ _ => rfl
    exact ⟨_, congrArg (StorageBackend.layered _) hpush.cache, hpush.graph⟩

end Layered

end Storage

/-! ## Plans -/

/-- What a device shows of its backend: the last node of the graph of its medium, or nothing when
there is no medium. -/
def StorageBackend.Shows (o : ImageOptions) (drive : Option String) (b : StorageBackend) :
    (medium : Option String) → Prop
  | none => b = .empty ∧ drive = none
  | some _ => ∃ nodes last, b = .layered nodes o.cache ∧ NodeGraph o.readOnly o.cache nodes ∧
      nodes.getLast? = some last ∧ drive = some last.nodeName

structure UnplacedDisk.Graphed (p : Parameters) (image : String) (media : Media)
    (d : UnplacedDisk) : Prop where
  name_eq : d.name = image
  media_eq : d.media = media
  graph : ∃ groups o medium props,
    ImageOptions.ofParameters image media (p.scopedTo image) groups = .ok o ∧
      imageLocator image media (p.scopedTo image) o.format = .ok medium ∧
      d.device.node.props = .disk props ∧ props.readOnly = o.readOnly ∧
      d.backend.Shows o props.drive medium

namespace Storage

def buildIn {m : Type → Type} [Monad m] (mode : Mode) (p : Parameters) (t : Target m) :
    Build m StoragePlan := do
  let groups ← throttleGroups p t
  let built ← (images p).mapM fun (image, media) =>
    buildImage image media (p.scopedTo image) t groups mode
  return ⟨built.map (·.1), groups ++ built.filterMap (·.2)⟩

section Plans

variable {m : Type → Type} [Monad m] [LawfulMonad m] {G : Guarantee m} {t : Target m}
  {K : Findings} (hK : G.Finds t.oracle K) {mode : Mode} (hmode : mode.layered = true)

include hK hmode

theorem shows_imageBackend (image : String) (media : Media) (p : Parameters) (o : ImageOptions) :
    G.build.Holds (imageBackend image media p o t mode) fun r =>
      ∃ medium, imageLocator image media p o.format = .ok medium ∧
        r.1.Shows o r.1.top? medium := by
  have hmakes := makes_imageBackend (Q := fun _ => True) trivial
    (G.build.mono (holds_imageSecret hK image o) fun _ _ => trivial) media p mode
  refine G.build.mono hmakes fun r ⟨_, medium, hmedium, hb⟩ => ⟨medium, hmedium, ?_⟩
  cases medium with
  | none =>
    rw [hb.2]
    exact ⟨rfl, rfl⟩
  | some file =>
    obtain ⟨locator, hlocator, hb⟩ := hb
    obtain ⟨nodes, hbackend, hgraph⟩ := nodeGraph_layeredBackend image o mode.rawAttach
      (r.2.map ObjectSpec.id) (injectsFaults_classify hlocator)
    have hlast := List.getLast?_eq_some_getLast hgraph.ne_nil
    rw [hb, Mode.backend, if_pos hmode, hbackend]
    refine ⟨nodes, _, rfl, hgraph, hlast, ?_⟩
    rw [StorageBackend.top?, hlast]
    rfl

theorem graphed_buildImage (p : Parameters) (image : String) (media : Media)
    (groups : List ObjectSpec) :
    G.build.Holds (buildImage image media (p.scopedTo image) t groups mode) fun r =>
      r.1.Graphed p image media := by
  refine G.bind_parameters fun o ho => G.bind_attempt fun (driver, bus) _ => ?_
  refine G.build.bind (holds_requireDevice hK driver) fun _ => ?_
  refine G.build.bind (shows_imageBackend hK hmode image media _ o) fun (b, secret) => ?_
  refine G.bind_parameters fun removable _ => G.bind_parameters fun extra _ => ?_
  refine G.bind_parameters fun request _ => G.build.ret fun hb _ => ?_
  obtain ⟨medium, hmedium, hshows⟩ := hb
  exact ⟨rfl, rfl, groups, o, medium, _, ho, hmedium, rfl, rfl, hshows⟩

theorem graphed_buildIn (p : Parameters) :
    G.build.Holds (buildIn mode p t) fun plan =>
      List.Forall₂ (fun image d => d.Graphed p image.1 image.2) (images p) plan.disks := by
  refine G.build.bind (holds_throttleGroups hK p) fun groups => ?_
  refine G.build.bind (G.build.mapM_forall₂ (fun image : String × Media =>
    graphed_buildImage hK hmode p image.1 image.2 groups) _) fun built => ?_
  refine G.build.ret fun hbuilt _ => ?_
  rw [List.forall₂_map_right_iff]
  exact hbuilt

end Plans

/-- A hypervisor is first asked whether images can be chains of nodes. -/
theorem runFrom_build {σ : Type} (t : Target (StateM σ)) (p : Parameters) (s : σ) :
    ∃ mode s', mode.layered = (Oracle.runFrom (t.oracle.probe .blockdev) s).1 ∧
      Oracle.runFrom (build p t).run s = Oracle.runFrom (buildIn mode p t).run s' := by
  let s₁ := (Oracle.runFrom (t.oracle.probe .blockdev) s).2
  let raw := Oracle.runFrom (t.oracle.probe .rawProtocolAttach) s₁
  exact ⟨⟨(Oracle.runFrom (t.oracle.probe .blockdev) s).1, raw.1⟩, raw.2, rfl, rfl⟩

end Storage

section Run

variable {σ : Type} {o : Oracle (StateM σ)} {family : MachineFamily} {machineType : String}
  {p : Parameters} {s t : σ} {plan : StoragePlan}

/-- Storage as chains of nodes. When images, optical drives and floppy drives have different names
and the hypervisor can have chains of nodes, every image with a medium is a graph: its nodes form
one chain that starts at a node which reaches the data, each other node reads from the one before
it, the layers come in one order and each at most once, and all nodes have the settings of the
image. The device is attached to the last node, and no two nodes of the guest have the same name. -/
theorem graphed_storage_build
    (hrun : Oracle.runFrom (build p ⟨o, family, machineType⟩).run s = (.ok plan, t))
    (hblockdev : (Oracle.runFrom (o.probe .blockdev) s).1 = true)
    (hnames : p.imageNames.Nodup) :
    List.Forall₂ (fun image d => d.Graphed p image.1 image.2) (images p) plan.disks ∧
      (plan.disks.flatMap fun d => d.backend.blockNames).Nodup := by
  -- what a step gives, whatever the state of the hypervisor is
  let G : Guarantee (StateM σ) := Guarantee.plain.state
  have hK : G.Finds o .any := fun _ _ => trivial
  constructor
  · obtain ⟨mode, s', hmode, hbuild⟩ := runFrom_build ⟨o, family, machineType⟩ p s
    have hholds := graphed_buildIn (t := ⟨o, family, machineType⟩) hK (hmode.trans hblockdev) p s'
    refine hholds plan ?_
    exact congrArg Prod.fst (hbuild.symm.trans hrun)
  · have hlabelled : plan.Labelled p :=
      labelled_build (t := ⟨o, family, machineType⟩) hK p s plan (congrArg Prod.fst hrun)
    have hbackends : List.Forall₂ StorageBackend.NamedAfter p.imageNames
        (plan.disks.map UnplacedDisk.backend) := by
      rw [List.forall₂_map_right_iff]
      exact hlabelled.disks.imp fun _ _ hd => hd.backend
    have hnodup := StorageBackend.nodup_blockNames hbackends hnames
    rwa [List.flatMap_map] at hnodup

end Run

/-- All layers above a wrapped image, a raw image at which devices are attached to its data, and an
optical drive without a medium. -/
theorem graphed_storage_build_layers :
    let c : CapabilitySet := ⟨none, [.blockdev, .rawProtocolAttach],
      ["ide-cd", "virtio-blk-pci"], ["throttle-group"]⟩
    let p : Parameters := .ofList [("images", "a b"), ("cdroms", "c"), ("throttle_groups", "g"),
      ("image_filename_a", "blkdebug:faults:/a.qcow2"), ("image_copy_on_read_a", "yes"),
      ("image_throttle_group_a", "g"), ("image_filename_b", "/dev/b"), ("image_format_b", "raw")]
    let run := Oracle.runFrom (build p ⟨c.oracle, .q35, "q35"⟩).run ()
    ∃ plan, run = (.ok plan, ()) ∧ p.imageNames.Nodup ∧
      plan.disks.map (fun d => d.backend.blockNames) =
        [["file_a", "blkdebug_a", "drive_a", "cor_a", "throttle_a"], ["file_b"], []] ∧
      List.Forall₂ (fun image d => d.Graphed p image.1 image.2) (images p) plan.disks ∧
      (plan.disks.flatMap fun d => d.backend.blockNames).Nodup := by
  intro c p run
  have hnames : p.imageNames.Nodup := by decide +kernel
  have hblocks : run.1.toOption.map (fun plan => plan.disks.map fun d => d.backend.blockNames) =
      some [["file_a", "blkdebug_a", "drive_a", "cor_a", "throttle_a"], ["file_b"], []] := by
    decide +kernel
  cases hrun : run.1 with
  | error e =>
    rw [hrun] at hblocks
    cases hblocks
  | ok plan =>
    rw [hrun] at hblocks
    have hpair : run = (.ok plan, ()) := Prod.ext hrun rfl
    exact ⟨plan, hpair, hnames, Option.some.inj hblocks,
      graphed_storage_build (o := c.oracle) hpair rfl hnames⟩

end GuestSpec
