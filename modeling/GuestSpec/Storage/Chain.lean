import GuestSpec.Document.Storage

/-!
# Chains of block nodes

A chain is built from the bottom up. Every node has the settings of its image and reads from the
node below it.
-/

namespace GuestSpec.Storage

/-- The settings that all nodes of a chain share, and the nodes so far. -/
structure Chain where
  readOnly : Bool
  cache : CacheMode
  nodes : List StorageNode

namespace Chain

def start (readOnly : Bool) (cache : CacheMode) : Chain := ⟨readOnly, cache, []⟩

def top (c : Chain) : String := (c.nodes.getLast?.map StorageNode.nodeName).getD ""

def push (c : Chain) (name : String) (kind : StorageNodeKind) : Chain :=
  { c with nodes := c.nodes ++ [⟨name, c.readOnly, c.cache.nodeCache, kind⟩] }

def protocol (c : Chain) (name : String) (node : ProtocolNode) : Chain :=
  c.push name (.protocol node)

/-- Puts a node on top that interprets the format of the one below. -/
def format (c : Chain) (name : String) (format : ImageFormat) (keySecret : Option String) : Chain :=
  c.push name (.format ⟨format, c.top, keySecret⟩)

/-- Puts a node on top that copies what is read. -/
def copyOnRead (c : Chain) (name : String) : Chain := c.push name (.filter (.copyOnRead c.top))

/-- Puts a node on top that limits the traffic. -/
def throttle (c : Chain) (name group : String) : Chain :=
  c.push name (.filter (.throttle c.top group))

def backend (c : Chain) : StorageBackend := .layered c.nodes c.cache

end Chain

/-- The backend of a flash image of the firmware: a raw image of its own name, or a drive record
that attaches itself. -/
def flashBackend (id path : String) (readOnly : Bool) (number : UInt8) (layered : Bool) :
    StorageBackend :=
  if layered then
    (((Chain.start readOnly .writeback).protocol ("file_" ++ id) (.file path none)).format id .raw
      none).backend
  else
    .legacy {
      id := id
      file := path
      format := some .raw
      interface := .pflash number
      cache := .writeback
      readOnly := readOnly
      aio := none
      copyOnRead := false
      throttlingGroup := none
      keySecret := none }

end GuestSpec.Storage
