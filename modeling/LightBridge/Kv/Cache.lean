import LightBridge.Host
import LightBridge.Foundation.Command
import LightBridge.Foundation.Slices

/-! `PagedKvCache` of `bridge-kv-gqa`: page tables, lazy page allocation, appends,
reads and rewinds, with the state a failed call leaves behind. -/
namespace LightBridge.Kv
open Foundation

/-- `KvError`. -/
inductive KvError where
  | zeroParameter (field : String)
  | arithmeticOverflow (operation : String)
  | allocationFailed (field : String) (elements : Nat)
  | layerOutOfRange (layer layerCount : Nat)
  | headOutOfRange (head headCount : Nat)
  | tokenOutOfRange (token storedTokens : Nat)
  | lengthMismatch (field : String) (expected actual : Nat)
  | capacityExhausted (layer stored additional capacity : Nat)
  | rewindBeyondStored (layer requested stored : Nat)
  | nonFiniteValue (field : String) (index : Nat) (bits : BitVec 32)
  | zeroSnapshotLimit
  | snapshotTooLarge (actual maximum : Nat)
  | snapshotTruncated (offset needed : Nat)
  | snapshotMagic
  | snapshotVersion (expected actual : Nat)
  | snapshotChecksum
  | snapshotBinding
  | snapshotConfiguration (field : String) (expected actual : Nat)
  | snapshotLayerLength (layer expected actual : Nat)
  | snapshotTrailingBytes (actual : Nat)
  deriving DecidableEq, Repr

/-- The places of one call that ask the allocator for memory. -/
inductive KvSite where
  | layerTables
  | pageTable (layer : Nat)
  | layerLengths
  | eagerKeys (layer page : Nat)
  | eagerValues (layer page : Nat)
  | newPages
  | pageKeys (page : Nat)
  | pageValues (page : Nat)
  | snapshotBytes
  | snapshotLengths
  | tokenKeys
  | tokenValues
  | restored (layer token : Nat) (site : KvSite)
  deriving DecidableEq, Repr

/-- The allocator's answers during one call. -/
abbrev Allocator := KvSite → Bool

/-- The fixed parameters of a cache. -/
structure KvConfig where
  layerCount : Nat
  kvHeadCount : Nat
  keyDimension : Nat
  valueDimension : Nat
  pageTokens : Nat
  tokenCapacity : Nat
  deriving DecidableEq, Repr

structure KvPage where
  keys : List F32
  values : List F32
  deriving DecidableEq, Repr

structure PagedKvCache extends KvConfig where
  pageCount : Nat
  lengths : List Nat
  pages : List (List (Option KvPage))
  deriving DecidableEq, Repr

/-- `zeroed_vec` for elements of `size` bytes. -/
def zeroedVec {α : Type} (granted : Bool) (size : Nat) (zero : α) (elements : Nat)
    (field : String) :
    Except KvError (List α) :=
  if tryReserve granted size elements then .ok (List.replicate elements zero)
  else .error (.allocationFailed field elements)

def requireLength (field : String) (expected actual : Nat) : Except KvError Unit :=
  ensure (expected = actual) (.lengthMismatch field expected actual)

def validateFinite (field : String) (values : List F32) : Except KvError Unit :=
  match values.findIdx? (fun value => !value.isFinite) with
  | none => .ok ()
  | some index => .error (.nonFiniteValue field index (values.getD index F32.zero).toBits)

def KvPage.new (keysGranted valuesGranted : Bool) (config : KvConfig) : Except KvError KvPage := do
  let keyElements ← okOr
    ((checkedMul config.pageTokens config.kvHeadCount).bind (checkedMul · config.keyDimension))
    (.arithmeticOverflow "key page storage")
  let valueElements ← okOr
    ((checkedMul config.pageTokens config.kvHeadCount).bind (checkedMul · config.valueDimension))
    (.arithmeticOverflow "value page storage")
  let keys ← zeroedVec keysGranted 4 F32.zero keyElements "key page storage"
  let values ← zeroedVec valuesGranted 4 F32.zero valueElements "value page storage"
  pure { keys, values }

def KvConfig.parameters (config : KvConfig) : List (String × Nat) :=
  [("layer_count", config.layerCount), ("kv_head_count", config.kvHeadCount),
    ("key_dimension", config.keyDimension), ("value_dimension", config.valueDimension),
    ("page_tokens", config.pageTokens), ("token_capacity", config.tokenCapacity)]

namespace PagedKvCache

/-- One iteration of the layer loop of `new_with_allocation`. -/
def newLayerPages (alloc : Allocator) (config : KvConfig) (pageCount : Nat) (eager : Bool)
    (layer : Nat) : Except KvError (List (Option KvPage)) :=
  if tryReserve (alloc (.pageTable layer)) 48 pageCount then
    if eager then
      (List.range pageCount).mapM fun page =>
        some <$> KvPage.new (alloc (.eagerKeys layer page)) (alloc (.eagerValues layer page)) config
    else .ok (List.replicate pageCount none)
  else .error (.allocationFailed "page table" pageCount)

def newWithAllocation (alloc : Allocator) (config : KvConfig) (eager : Bool) :
    Except KvError PagedKvCache := do
  match config.parameters.find? (fun parameter => parameter.2 == 0) with
  | some (field, _) => .error (.zeroParameter field)
  | none =>
    let rounded ← okOr (checkedAdd config.tokenCapacity (config.pageTokens - 1))
      (.arithmeticOverflow "KV page count rounding")
    let pageCount := rounded / config.pageTokens
    if tryReserve (alloc .layerTables) 24 config.layerCount then
      let pages ← (List.range config.layerCount).mapM (newLayerPages alloc config pageCount eager)
      let lengths ← zeroedVec (alloc .layerLengths) 8 0 config.layerCount "layer lengths"
      pure { toKvConfig := config, pageCount, lengths, pages }
    else .error (.allocationFailed "layer page tables" config.layerCount)

/-- `PagedKvCache::new`. -/
def new (alloc : Allocator) (config : KvConfig) : Except KvError PagedKvCache :=
  newWithAllocation alloc config true

def newLazy (alloc : Allocator) (config : KvConfig) : Except KvError PagedKvCache :=
  newWithAllocation alloc config false

/-- `self.lengths[layer]`. -/
def storedLength (cache : PagedKvCache) (layer : Nat) : Nat := cache.lengths.getD layer 0

/-- `self.pages[layer][index]`. -/
def pageAt (cache : PagedKvCache) (layer index : Nat) : Option KvPage :=
  (cache.pages.getD layer []).getD index none

/-- `self.pages[layer][index] = Some(page)`. -/
def setPage (cache : PagedKvCache) (layer index : Nat) (page : KvPage) : PagedKvCache :=
  { cache with pages := cache.pages.modify layer fun table => table.set index (some page) }

def setLength (cache : PagedKvCache) (layer length : Nat) : PagedKvCache :=
  { cache with lengths := cache.lengths.set layer length }

def validateLayer (cache : PagedKvCache) (layer : Nat) : Except KvError Unit :=
  ensure (layer < cache.layerCount) (.layerOutOfRange layer cache.layerCount)

def validateIndices (cache : PagedKvCache) (layer token head : Nat) : Except KvError Unit := do
  cache.validateLayer layer
  ensure (token < cache.storedLength layer) (.tokenOutOfRange token (cache.storedLength layer))
  ensure (head < cache.kvHeadCount) (.headOutOfRange head cache.kvHeadCount)

def storedTokens (cache : PagedKvCache) (layer : Nat) : Except KvError Nat := do
  cache.validateLayer layer
  pure (cache.storedLength layer)

/-- The error of `page`, `page_and_key_offset` and `page_and_value_offset`. -/
def missingPage : KvError := .arithmeticOverflow "missing allocated KV page"

def page (cache : PagedKvCache) (layer token : Nat) : Except KvError KvPage :=
  okOr (cache.pageAt layer (token / cache.pageTokens)) missingPage

/-- Row index of a token's head inside its page. -/
def rowIndex (cache : PagedKvCache) (token head : Nat) : Nat :=
  token % cache.pageTokens * cache.kvHeadCount + head

def keyOffset (cache : PagedKvCache) (token head : Nat) : Nat :=
  cache.rowIndex token head * cache.keyDimension

def valueOffset (cache : PagedKvCache) (token head : Nat) : Nat :=
  cache.rowIndex token head * cache.valueDimension

def key (cache : PagedKvCache) (layer token head : Nat) : Except KvError (List F32) := do
  cache.validateIndices layer token head
  let page ← cache.page layer token
  pure (slice page.keys (cache.keyOffset token head) cache.keyDimension)

def value (cache : PagedKvCache) (layer token head : Nat) : Except KvError (List F32) := do
  cache.validateIndices layer token head
  let page ← cache.page layer token
  pure (slice page.values (cache.valueOffset token head) cache.valueDimension)

/-- The page indices of `first..=last` that hold no page yet. -/
def missingPages (cache : PagedKvCache) (layer first last : Nat) : List Nat :=
  (List.range' first (last + 1 - first)).filter fun index => (cache.pageAt layer index).isNone

/-- The pages are built before any is installed. -/
def ensurePages (alloc : Allocator) (layer start stop : Nat) : Command PagedKvCache KvError Unit :=
  fun cache =>
    let first := start / cache.pageTokens
    let last := (stop - 1) / cache.pageTokens
    let missing := cache.missingPages layer first last
    if missing.length = 0 then (.ok (), cache)
    else if tryReserve (alloc .newPages) 56 missing.length then
      match missing.mapM fun index =>
          Prod.mk index <$> KvPage.new (alloc (.pageKeys index)) (alloc (.pageValues index))
            cache.toKvConfig with
      | .ok allocated =>
          (.ok (), allocated.foldl (fun c entry => c.setPage layer entry.1 entry.2) cache)
      | .error error => (.error error, cache)
    else (.error (.allocationFailed "new KV pages" missing.length), cache)

/-- The checks of `append_tokens` before its first write; answers the new length. -/
def checkAppend (cache : PagedKvCache) (layer tokenCount : Nat) (keys values : List F32) :
    Except KvError Nat := do
  cache.validateLayer layer
  ensure (tokenCount ≠ 0) (.zeroParameter "append token_count")
  let keysPerToken ← okOr (checkedMul cache.kvHeadCount cache.keyDimension)
    (.arithmeticOverflow "keys per token")
  let valuesPerToken ← okOr (checkedMul cache.kvHeadCount cache.valueDimension)
    (.arithmeticOverflow "values per token")
  let expectedKeys ← okOr (checkedMul tokenCount keysPerToken)
    (.arithmeticOverflow "appended key length")
  let expectedValues ← okOr (checkedMul tokenCount valuesPerToken)
    (.arithmeticOverflow "appended value length")
  requireLength "append keys" expectedKeys keys.length
  requireLength "append values" expectedValues values.length
  validateFinite "append keys" keys
  validateFinite "append values" values
  let newLength ← okOr (checkedAdd (cache.storedLength layer) tokenCount)
    (.arithmeticOverflow "appended token count")
  ensure (newLength ≤ cache.tokenCapacity)
    (.capacityExhausted layer (cache.storedLength layer) tokenCount cache.tokenCapacity)
  pure newLength

/-- Copies one head's key row through `page_and_key_offset`. -/
def writeKey (layer token head : Nat) (row : List F32) : Command PagedKvCache KvError Unit := do
  let cache ← Command.read
  let page ← Command.lift (cache.page layer token)
  Command.update fun c => c.setPage layer (token / c.pageTokens)
    { page with keys := overwrite page.keys (c.keyOffset token head) row }

/-- Copies one head's value row through `page_and_value_offset`. -/
def writeValue (layer token head : Nat) (row : List F32) : Command PagedKvCache KvError Unit := do
  let cache ← Command.read
  let page ← Command.lift (cache.page layer token)
  Command.update fun c => c.setPage layer (token / c.pageTokens)
    { page with values := overwrite page.values (c.valueOffset token head) row }

/-- The key row of one token and head in token-major source data. -/
def sourceKey (config : KvConfig) (keys : List F32) (tokenOffset head : Nat) : List F32 :=
  slice keys ((tokenOffset * config.kvHeadCount + head) * config.keyDimension) config.keyDimension

def sourceValue (config : KvConfig) (values : List F32) (tokenOffset head : Nat) : List F32 :=
  slice values ((tokenOffset * config.kvHeadCount + head) * config.valueDimension)
    config.valueDimension

/-- The body of the head loop of `append_tokens`. -/
def writeHead (config : KvConfig) (layer stored tokenOffset : Nat) (keys values : List F32)
    (head : Nat) : Command PagedKvCache KvError Unit := do
  writeKey layer (stored + tokenOffset) head (sourceKey config keys tokenOffset head)
  writeValue layer (stored + tokenOffset) head (sourceValue config values tokenOffset head)

/-- The body of the token loop of `append_tokens`. -/
def writeToken (config : KvConfig) (layer stored : Nat) (keys values : List F32)
    (tokenOffset : Nat) : Command PagedKvCache KvError Unit :=
  Command.loop (writeHead config layer stored tokenOffset keys values) 0 config.kvHeadCount

def appendTokens (alloc : Allocator) (layer tokenCount : Nat) (keys values : List F32) :
    Command PagedKvCache KvError Unit := do
  let cache ← Command.read
  let newLength ← Command.lift (cache.checkAppend layer tokenCount keys values)
  ensurePages alloc layer (cache.storedLength layer) newLength
  Command.loop (writeToken cache.toKvConfig layer (cache.storedLength layer) keys values) 0
    tokenCount
  Command.update (·.setLength layer newLength)

def append (alloc : Allocator) (layer : Nat) (key value : List F32) :
    Command PagedKvCache KvError Nat := do
  appendTokens alloc layer 1 key value
  let cache ← Command.read
  pure (cache.storedLength layer - 1)

def reset : Command PagedKvCache KvError Unit :=
  Command.update fun cache => { cache with lengths := cache.lengths.map fun _ => 0 }

def rewindAll (tokenCount : Nat) : Command PagedKvCache KvError Unit := fun cache =>
  match cache.lengths.findIdx? (fun stored => tokenCount > stored) with
  | some layer => (.error (.rewindBeyondStored layer tokenCount (cache.storedLength layer)), cache)
  | none => (.ok (), { cache with lengths := cache.lengths.map fun _ => tokenCount })

end PagedKvCache
end LightBridge.Kv
