import GuestSpec.Storage.Image

/-!
# What a backend says about its image

A chain of nodes and a drive record say the same things in different places. The definitions here
read them off either form, and the lemmas tell what is read off a backend that is made from the
options of an image.
-/

namespace GuestSpec

namespace StorageNodeKind

def throttleGroup? : StorageNodeKind → Option String
  | filter (.throttle _ group) => some group
  | _ => none

def keySecret? : StorageNodeKind → Option String
  | format node => node.keySecret
  | _ => none

def format? : StorageNodeKind → Option ImageFormat
  | format node => some node.format
  | _ => none

def aio? : StorageNodeKind → Option Aio
  | protocol node => node.aio?
  | _ => none

def copiesOnRead : StorageNodeKind → Bool
  | filter (.copyOnRead _) => true
  | _ => false

def isProtocol : StorageNodeKind → Bool
  | protocol _ => true
  | _ => false

end StorageNodeKind

namespace StorageBackend

def layers : StorageBackend → List StorageNodeKind
  | layered nodes _ => nodes.map StorageNode.kind
  | _ => []

def throttleGroups (b : StorageBackend) : List String :=
  match b with
  | legacy drive => drive.throttlingGroup.toList
  | _ => b.layers.filterMap StorageNodeKind.throttleGroup?

def keySecrets (b : StorageBackend) : List String :=
  match b with
  | legacy drive => drive.keySecret.toList
  | _ => b.layers.filterMap StorageNodeKind.keySecret?

def copiesOnRead (b : StorageBackend) : Bool :=
  match b with
  | legacy drive => drive.copyOnRead
  | _ => b.layers.any StorageNodeKind.copiesOnRead

/-- The format in which a backend reads its image. A chain that interprets none takes the data as
they are. -/
def format? (b : StorageBackend) : Option ImageFormat :=
  match b with
  | layered .. => some ((b.layers.findSome? StorageNodeKind.format?).getD .raw)
  | legacy drive => drive.format
  | empty => none

/-- Whether devices are attached to a node that reaches the data. -/
def isBareProtocol (b : StorageBackend) : Bool := b.layers.getLast?.any StorageNodeKind.isProtocol

section IsLayered

variable {b : StorageBackend}

theorem throttleGroups_of_isLayered (h : b.isLayered = true) :
    b.throttleGroups = b.layers.filterMap StorageNodeKind.throttleGroup? := by
  cases b with
  | layered => rfl
  | _ => cases h

theorem keySecrets_of_isLayered (h : b.isLayered = true) :
    b.keySecrets = b.layers.filterMap StorageNodeKind.keySecret? := by
  cases b with
  | layered => rfl
  | _ => cases h

theorem copiesOnRead_of_isLayered (h : b.isLayered = true) :
    b.copiesOnRead = b.layers.any StorageNodeKind.copiesOnRead := by
  cases b with
  | layered => rfl
  | _ => cases h

theorem format?_of_isLayered (h : b.isLayered = true) :
    b.format? = some ((b.layers.filterMap StorageNodeKind.format?).head?.getD .raw) := by
  cases b with
  | layered nodes cache =>
    rw [List.head?_filterMap]
    rfl
  | _ => cases h

theorem aio?_of_isLayered (h : b.isLayered = true) :
    b.aio? = b.layers.findSome? StorageNodeKind.aio? := by
  cases b with
  | layered nodes cache =>
    rw [layers, List.findSome?_map]
    rfl
  | _ => cases h

theorem isSome_top?_of_isLayered (h : b.isLayered = true) : b.top?.isSome = !b.layers.isEmpty := by
  cases b with
  | layered nodes cache =>
    cases hn : nodes.getLast? with
    | none => simp [top?, layers, List.getLast?_eq_none_iff.1 hn]
    | some n =>
      have hne : nodes ≠ [] := by
        rintro rfl
        cases hn
      simp [top?, layers, hn, hne]
  | _ => cases h

end IsLayered

end StorageBackend

namespace Storage

/-! ## Locators -/

theorem ofLocator_of_classify {image file : String} {locator : Locator}
    (h : classify image file = .ok locator) : ∃ s, ofLocator s = .ok locator.data ∧
      ∀ node, locator = .plain node → s = Text.trim file := by
  unfold classify at h
  dsimp only at h
  split at h
  · cases h
  have hunderstand : understand (Text.trim file) = .ok locator := by
    cases hl : understand (Text.trim file) with
    | error e =>
      rw [hl] at h
      cases h
    | ok l =>
      rw [hl] at h
      rw [Except.ok.inj h]
  unfold understand at hunderstand
  split at hunderstand
  · cases hnode : ofLocator (Text.trim file) with
    | error e =>
      rw [hnode] at hunderstand
      cases hunderstand
    | ok node =>
      rw [hnode] at hunderstand
      obtain rfl := Except.ok.inj hunderstand
      exact ⟨_, hnode, fun _ _ => rfl⟩
  · split at hunderstand
    · next config inner _ =>
      split at hunderstand
      · cases hunderstand
      · cases hnode : ofLocator inner with
        | error e =>
          rw [hnode] at hunderstand
          cases hunderstand
        | ok node =>
          rw [hnode] at hunderstand
          obtain rfl := Except.ok.inj hunderstand
          exact ⟨inner, hnode, nofun⟩
    · cases hunderstand

/-! ## Chains -/

namespace Chain

variable {c : Chain} {name : String}

def layers (c : Chain) : List StorageNodeKind := c.nodes.map StorageNode.kind

@[simp] theorem layers_push {kind : StorageNodeKind} :
    (c.push name kind).layers = c.layers ++ [kind] := List.map_append

@[simp] theorem layers_protocol {node : ProtocolNode} :
    (c.protocol name node).layers = c.layers ++ [.protocol node] := layers_push

@[simp] theorem layers_format {format : ImageFormat} {keySecret : Option String} :
    (c.format name format keySecret).layers = c.layers ++ [.format ⟨format, c.top, keySecret⟩] :=
  layers_push

@[simp] theorem layers_copyOnRead :
    (c.copyOnRead name).layers = c.layers ++ [.filter (.copyOnRead c.top)] := layers_push

@[simp] theorem layers_throttle {group : String} :
    (c.throttle name group).layers = c.layers ++ [.filter (.throttle c.top group)] := layers_push

end Chain

def Locator.layers (image : String) (aio : Aio) : Locator → List StorageNodeKind
  | .plain node => [.protocol (withAio aio node)]
  | .blkdebug config inner =>
    [.protocol (withAio aio inner), .protocol (.blkdebug config ("file_" ++ image))]

section Layered

variable (image : String) (locator : Locator) (o : ImageOptions) (rawAttach : Bool)
  (secretId : Option String)

theorem Chain.layers_locate (c : Chain) (aio : Aio) :
    (c.locate image aio locator).layers = c.layers ++ locator.layers image aio := by
  cases locator with
  | plain node => simp [locate, Locator.layers]
  | blkdebug config inner => simp [locate, Locator.layers]

def contentChain : Chain :=
  let data := (Chain.start o.readOnly o.cache).locate image o.aio locator
  if o.format = .raw ∧ rawAttach then data else data.format ("drive_" ++ image) o.format secretId

def copiedChain : Chain :=
  let content := contentChain image locator o rawAttach secretId
  if o.copyOnRead then content.copyOnRead ("cor_" ++ image) else content

theorem layeredBackend_eq :
    layeredBackend image locator o rawAttach secretId =
      (o.throttleGroup.elim (copiedChain image locator o rawAttach secretId) fun group =>
        (copiedChain image locator o rawAttach secretId).throttle ("throttle_" ++ image)
          group).backend := by
  unfold layeredBackend copiedChain contentChain
  cases o.throttleGroup with
  | none => rfl
  | some group => rfl

theorem layers_contentChain :
    ∃ data, (contentChain image locator o rawAttach secretId).layers =
      locator.layers image o.aio ++
        if o.format = .raw ∧ rawAttach then [] else [.format ⟨o.format, data, secretId⟩] := by
  refine ⟨((Chain.start o.readOnly o.cache).locate image o.aio locator).top, ?_⟩
  have hdata : ((Chain.start o.readOnly o.cache).locate image o.aio locator).layers =
      locator.layers image o.aio := Chain.layers_locate image locator _ _
  rw [contentChain, ← hdata]
  split
  · exact (List.append_nil _).symm
  · exact Chain.layers_format

theorem layers_copiedChain :
    ∃ content, (copiedChain image locator o rawAttach secretId).layers =
      (contentChain image locator o rawAttach secretId).layers ++
        if o.copyOnRead then [.filter (.copyOnRead content)] else [] := by
  refine ⟨(contentChain image locator o rawAttach secretId).top, ?_⟩
  rw [copiedChain]
  split
  · exact Chain.layers_copyOnRead
  · exact (List.append_nil _).symm

/-- The layers of an image's chain: its data, its format, and the filters that are asked for. -/
theorem layers_layeredBackend :
    ∃ data content copied, (layeredBackend image locator o rawAttach secretId).layers =
      locator.layers image o.aio ++
        (if o.format = .raw ∧ rawAttach then [] else [.format ⟨o.format, data, secretId⟩]) ++
        (if o.copyOnRead then [.filter (.copyOnRead content)] else []) ++
        (o.throttleGroup.map fun group => .filter (.throttle copied group)).toList := by
  obtain ⟨data, hcontent⟩ := layers_contentChain image locator o rawAttach secretId
  obtain ⟨content, hcopied⟩ := layers_copiedChain image locator o rawAttach secretId
  refine ⟨data, content, (copiedChain image locator o rawAttach secretId).top, ?_⟩
  rw [← hcontent, ← hcopied, layeredBackend_eq]
  cases o.throttleGroup with
  | none => exact (List.append_nil _).symm
  | some group => exact Chain.layers_throttle

/-- What every node keeps that is put on top holds of the whole chain of an image. -/
theorem layeredBackend_induction {I : Chain → Prop} (hstart : I (.start o.readOnly o.cache))
    (hpush : ∀ c name kind, I c → I (c.push name kind)) :
    ∃ c, I c ∧ layeredBackend image locator o rawAttach secretId = c.backend := by
  have hdata : I ((Chain.start o.readOnly o.cache).locate image o.aio locator) := by
    cases locator with
    | plain node => exact hpush _ _ _ hstart
    | blkdebug config inner => exact hpush _ _ _ (hpush _ _ _ hstart)
  have hcontent : I (contentChain image locator o rawAttach secretId) :=
    iteInduction (motive := I) (fun _ => hdata) fun _ => hpush _ _ _ hdata
  have hcopied : I (copiedChain image locator o rawAttach secretId) :=
    iteInduction (motive := I) (fun _ => hpush _ _ _ hcontent) fun _ => hcontent
  refine ⟨_, ?_, layeredBackend_eq image locator o rawAttach secretId⟩
  cases o.throttleGroup with
  | none => exact hcopied
  | some group => exact hpush _ _ _ hcopied

theorem cache?_layeredBackend :
    (layeredBackend image locator o rawAttach secretId).cache? = some o.cache := by
  obtain ⟨c, hc, h⟩ := layeredBackend_induction image locator o rawAttach secretId
    (I := fun c => c.cache = o.cache) rfl fun _ _ _ hc => hc
  rw [h]
  exact congrArg some hc

/-- What is read off the layers that reach no data: off the format, and off the filters. -/
theorem filterMap_layers_layeredBackend {β : Type} (f : StorageNodeKind → Option β)
    (hf : ∀ node, f (.protocol node) = none) :
    ∃ data content copied,
      (layeredBackend image locator o rawAttach secretId).layers.filterMap f =
        (if o.format = .raw ∧ rawAttach then [] else
          (f (.format ⟨o.format, data, secretId⟩)).toList) ++
        (if o.copyOnRead then (f (.filter (.copyOnRead content))).toList else []) ++
        (o.throttleGroup.bind fun group => f (.filter (.throttle copied group))).toList := by
  obtain ⟨data, content, copied, h⟩ := layers_layeredBackend image locator o rawAttach secretId
  refine ⟨data, content, copied, ?_⟩
  have hone : ∀ kind, [kind].filterMap f = (f kind).toList := by
    intro kind
    cases hk : f kind <;> simp [hk]
  have hlocator : (locator.layers image o.aio).filterMap f = [] := by
    cases locator <;> simp [Locator.layers, hf]
  rw [h, List.filterMap_append, List.filterMap_append, List.filterMap_append, hlocator,
    List.nil_append]
  congr 1
  · congr 1
    · split
      · rfl
      · exact hone _
    · split
      · exact hone _
      · rfl
  · cases o.throttleGroup with
    | none => rfl
    | some group => exact hone _

theorem throttleGroups_layeredBackend :
    (layeredBackend image locator o rawAttach secretId).throttleGroups =
      o.throttleGroup.toList := by
  obtain ⟨data, content, copied, h⟩ := filterMap_layers_layeredBackend image locator o rawAttach
    secretId StorageNodeKind.throttleGroup? fun _ => rfl
  rw [StorageBackend.throttleGroups_of_isLayered rfl, h]
  simp [StorageNodeKind.throttleGroup?]

theorem keySecrets_layeredBackend (hsecret : o.format = .raw → secretId = none) :
    (layeredBackend image locator o rawAttach secretId).keySecrets = secretId.toList := by
  obtain ⟨data, content, copied, h⟩ := filterMap_layers_layeredBackend image locator o rawAttach
    secretId StorageNodeKind.keySecret? fun _ => rfl
  rw [StorageBackend.keySecrets_of_isLayered rfl, h]
  by_cases hraw : o.format = .raw
  · simp [StorageNodeKind.keySecret?, hsecret hraw]
  · simp [StorageNodeKind.keySecret?, hraw]

theorem format?_layeredBackend :
    (layeredBackend image locator o rawAttach secretId).format? = some o.format := by
  obtain ⟨data, content, copied, h⟩ := filterMap_layers_layeredBackend image locator o rawAttach
    secretId StorageNodeKind.format? fun _ => rfl
  rw [StorageBackend.format?_of_isLayered rfl, h]
  by_cases hraw : o.format = .raw ∧ rawAttach
  · simp [StorageNodeKind.format?, hraw]
  · simp [StorageNodeKind.format?, hraw]

theorem copiesOnRead_layeredBackend :
    (layeredBackend image locator o rawAttach secretId).copiesOnRead = o.copyOnRead := by
  obtain ⟨data, content, copied, h⟩ := layers_layeredBackend image locator o rawAttach secretId
  have hlocator : (locator.layers image o.aio).any StorageNodeKind.copiesOnRead = false := by
    cases locator <;> rfl
  rw [StorageBackend.copiesOnRead_of_isLayered rfl, h]
  simp only [List.any_append, hlocator, Bool.false_or]
  cases o.throttleGroup <;> cases o.copyOnRead <;> split <;> rfl

theorem aio?_layeredBackend :
    (layeredBackend image locator o rawAttach secretId).aio? =
      if hasAio locator.data then some o.aio else none := by
  obtain ⟨data, content, copied, h⟩ := layers_layeredBackend image locator o rawAttach secretId
  have hlocator : (locator.layers image o.aio).findSome? StorageNodeKind.aio? =
      if hasAio locator.data then some o.aio else none := by
    cases locator with
    | plain node => cases node <;> rfl
    | blkdebug config inner => cases inner <;> rfl
  rw [StorageBackend.aio?_of_isLayered rfl, h]
  simp only [List.findSome?_append, hlocator]
  -- neither a format nor a filter has an engine
  cases o.throttleGroup <;> cases o.copyOnRead <;> split <;> simp [StorageNodeKind.aio?]

theorem layers_layeredBackend_ne_nil :
    (layeredBackend image locator o rawAttach secretId).layers ≠ [] := by
  obtain ⟨data, content, copied, h⟩ := layers_layeredBackend image locator o rawAttach secretId
  rw [h]
  cases locator <;> simp [Locator.layers]

theorem isSome_top?_layeredBackend :
    (layeredBackend image locator o rawAttach secretId).top?.isSome = true := by
  have hne := layers_layeredBackend_ne_nil image locator o rawAttach secretId
  rw [StorageBackend.isSome_top?_of_isLayered rfl]
  simpa using hne

theorem readOnly_layeredBackend :
    (layeredBackend image locator o rawAttach secretId).readOnly = o.readOnly := by
  obtain ⟨c, ⟨-, hc⟩, h⟩ := layeredBackend_induction image locator o rawAttach secretId
    (I := fun c => c.readOnly = o.readOnly ∧ ∀ n ∈ c.nodes, n.readOnly = o.readOnly)
    ⟨rfl, fun _ hn => nomatch hn⟩ fun c name kind hc => ⟨hc.1, fun n hn => by
      obtain hn | hn := List.mem_append.1 hn
      · exact hc.2 n hn
      · obtain rfl := List.mem_singleton.1 hn
        exact hc.1⟩
  have hne := layers_layeredBackend_ne_nil image locator o rawAttach secretId
  rw [h] at hne ⊢
  cases hnodes : c.nodes with
  | nil => exact absurd (congrArg (List.map StorageNode.kind) hnodes) hne
  | cons n rest =>
    rw [hnodes] at hc
    change c.nodes.any StorageNode.readOnly = _
    cases hr : o.readOnly with
    | false => simpa [hnodes, hr] using hc
    | true =>
      rw [hnodes, List.any_cons, hc n List.mem_cons_self, hr, Bool.true_or]

theorem rawAttach_of_isBareProtocol
    (h : (layeredBackend image locator o rawAttach secretId).isBareProtocol = true) :
    rawAttach = true := by
  obtain ⟨data, content, copied, hlayers⟩ :=
    layers_layeredBackend image locator o rawAttach secretId
  cases rawAttach with
  | true => rfl
  | false =>
    rw [StorageBackend.isBareProtocol, hlayers] at h
    cases hg : o.throttleGroup <;> cases hc : o.copyOnRead <;>
      simp [hg, hc, StorageNodeKind.isProtocol] at h

end Layered

end Storage

end GuestSpec
