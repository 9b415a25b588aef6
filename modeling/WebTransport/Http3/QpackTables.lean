import WebTransport.Http3.QpackPrimitives

/-!
# QPACK's static and dynamic tables

The table every endpoint has (`http3/qpack_static_table.h`) and the one a peer's encoder
stream fills (`http3/qpack_dynamic.c`). The dynamic table is the list of its live entries,
oldest first, with the number of those that were evicted: the source's counters `count`,
`size`, `used` and `insert_count` are read off it.
-/

namespace WebTransport

/-! ## The static table -/

/-- Name and value of each entry, in the order of the indices. -/
def rfc9204StaticTable : List (List UInt8 × List UInt8) :=
  [(ascii ":authority", ascii ""),
   (ascii ":path", ascii "/"),
   (ascii "age", ascii "0"),
   (ascii "content-disposition", ascii ""),
   (ascii "content-length", ascii "0"),
   (ascii "cookie", ascii ""),
   (ascii "date", ascii ""),
   (ascii "etag", ascii ""),
   (ascii "if-modified-since", ascii ""),
   (ascii "if-none-match", ascii ""),
   (ascii "last-modified", ascii ""),
   (ascii "link", ascii ""),
   (ascii "location", ascii ""),
   (ascii "referer", ascii ""),
   (ascii "set-cookie", ascii ""),
   (ascii ":method", ascii "CONNECT"),
   (ascii ":method", ascii "DELETE"),
   (ascii ":method", ascii "GET"),
   (ascii ":method", ascii "HEAD"),
   (ascii ":method", ascii "OPTIONS"),
   (ascii ":method", ascii "POST"),
   (ascii ":method", ascii "PUT"),
   (ascii ":scheme", ascii "http"),
   (ascii ":scheme", ascii "https"),
   (ascii ":status", ascii "103"),
   (ascii ":status", ascii "200"),
   (ascii ":status", ascii "304"),
   (ascii ":status", ascii "404"),
   (ascii ":status", ascii "503"),
   (ascii "accept", ascii "*/*"),
   (ascii "accept", ascii "application/dns-message"),
   (ascii "accept-encoding", ascii "gzip, deflate, br"),
   (ascii "accept-ranges", ascii "bytes"),
   (ascii "access-control-allow-headers", ascii "cache-control"),
   (ascii "access-control-allow-headers", ascii "content-type"),
   (ascii "access-control-allow-origin", ascii "*"),
   (ascii "cache-control", ascii "max-age=0"),
   (ascii "cache-control", ascii "max-age=2592000"),
   (ascii "cache-control", ascii "max-age=604800"),
   (ascii "cache-control", ascii "no-cache"),
   (ascii "cache-control", ascii "no-store"),
   (ascii "cache-control", ascii "public, max-age=31536000"),
   (ascii "content-encoding", ascii "br"),
   (ascii "content-encoding", ascii "gzip"),
   (ascii "content-type", ascii "application/dns-message"),
   (ascii "content-type", ascii "application/javascript"),
   (ascii "content-type", ascii "application/json"),
   (ascii "content-type", ascii "application/x-www-form-urlencoded"),
   (ascii "content-type", ascii "image/gif"),
   (ascii "content-type", ascii "image/jpeg"),
   (ascii "content-type", ascii "image/png"),
   (ascii "content-type", ascii "text/css"),
   (ascii "content-type", ascii "text/html; charset=utf-8"),
   (ascii "content-type", ascii "text/plain"),
   (ascii "content-type", ascii "text/plain;charset=utf-8"),
   (ascii "range", ascii "bytes=0-"),
   (ascii "strict-transport-security", ascii "max-age=31536000"),
   (ascii "strict-transport-security", ascii "max-age=31536000; includesubdomains"),
   (ascii "strict-transport-security", ascii "max-age=31536000; includesubdomains; preload"),
   (ascii "vary", ascii "accept-encoding"),
   (ascii "vary", ascii "origin"),
   (ascii "x-content-type-options", ascii "nosniff"),
   (ascii "x-xss-protection", ascii "1; mode=block"),
   (ascii ":status", ascii "100"),
   (ascii ":status", ascii "204"),
   (ascii ":status", ascii "206"),
   (ascii ":status", ascii "302"),
   (ascii ":status", ascii "400"),
   (ascii ":status", ascii "403"),
   (ascii ":status", ascii "421"),
   (ascii ":status", ascii "425"),
   (ascii ":status", ascii "500"),
   (ascii "accept-language", ascii ""),
   (ascii "access-control-allow-credentials", ascii "FALSE"),
   (ascii "access-control-allow-credentials", ascii "TRUE"),
   (ascii "access-control-allow-headers", ascii "*"),
   (ascii "access-control-allow-methods", ascii "get"),
   (ascii "access-control-allow-methods", ascii "get, post, options"),
   (ascii "access-control-allow-methods", ascii "options"),
   (ascii "access-control-expose-headers", ascii "content-length"),
   (ascii "access-control-request-headers", ascii "content-type"),
   (ascii "access-control-request-method", ascii "get"),
   (ascii "access-control-request-method", ascii "post"),
   (ascii "alt-svc", ascii "clear"),
   (ascii "authorization", ascii ""),
   (ascii "content-security-policy",
     ascii "script-src 'none'; object-src 'none'; base-uri 'none'"),
   (ascii "early-data", ascii "1"),
   (ascii "expect-ct", ascii ""),
   (ascii "forwarded", ascii ""),
   (ascii "if-range", ascii ""),
   (ascii "origin", ascii ""),
   (ascii "purpose", ascii "prefetch"),
   (ascii "server", ascii ""),
   (ascii "timing-allow-origin", ascii "*"),
   (ascii "upgrade-insecure-requests", ascii "1"),
   (ascii "user-agent", ascii ""),
   (ascii "x-forwarded-for", ascii ""),
   (ascii "x-frame-options", ascii "deny"),
   (ascii "x-frame-options", ascii "sameorigin")]

/-- The entry at an index. -/
def qpackStaticEntry (index : ℕ) : Option (List UInt8 × List UInt8) := rfc9204StaticTable[index]?

/-! ## The dynamic table -/

def qpackDynamicMaxEntries : ℕ := 32
def qpackDynamicMaxBytes : ℕ := 4096
def qpackDynamicEntryOverhead : ℕ := 32

structure DynamicEntry where
  name : List UInt8
  value : List UInt8
deriving DecidableEq, Repr

/-- The bytes an entry takes in the table's arena. -/
def DynamicEntry.bytes (e : DynamicEntry) : ℕ := e.name.length + e.value.length

/-- What an entry counts against the capacity. -/
def DynamicEntry.size (e : DynamicEntry) : ℕ := e.bytes + qpackDynamicEntryOverhead

structure DynamicTable where
  capacity : ℕ
  entries : List DynamicEntry
  dropped : ℕ
deriving DecidableEq, Repr

/-- How many entries were ever inserted. -/
def DynamicTable.insertCount (t : DynamicTable) : ℕ := t.dropped + t.entries.length

/-- The arena's bytes in use. -/
def DynamicTable.used (t : DynamicTable) : ℕ := (t.entries.map DynamicEntry.bytes).sum

def qpackDynamicInit (capacity : ℕ) : DynamicTable := ⟨capacity, [], 0⟩

/-- Drop entries from the beginning until the others count no more than `limit`. -/
def evictOldest (limit : ℕ) : List DynamicEntry → List DynamicEntry
  | [] => []
  | e :: es =>
    if ((e :: es).map DynamicEntry.size).sum > limit then evictOldest limit es else e :: es

/-- Evict the oldest entries until the others count no more than `limit`. -/
def DynamicTable.makeRoom (t : DynamicTable) (limit : ℕ) : DynamicTable :=
  { t with
    entries := evictOldest limit t.entries
    dropped := t.dropped + (t.entries.length - (evictOldest limit t.entries).length) }

def qpackDynamicSetCapacity (t : DynamicTable) (capacity : ℕ) : DynamicTable :=
  DynamicTable.makeRoom { t with capacity } capacity

/-- Insert an entry. The last refusal comes after the eviction. -/
def qpackDynamicInsert (t : DynamicTable) (e : DynamicEntry) : DynamicTable × Status :=
  if e.name.length > 0xffff ∨ e.value.length > 0xffff then (t, .limit)
  else if e.size > t.capacity then (t, .limit)
  -- The bound on the number of entries is looked at before room is made.
  else if t.entries.length ≥ qpackDynamicMaxEntries then (t, .limit)
  else if e.bytes > qpackDynamicMaxBytes then (t, .limit)
  else
    let t := t.makeRoom (t.capacity - e.size)
    if t.used + e.bytes > qpackDynamicMaxBytes then (t, .limit)
    else ({ t with entries := t.entries ++ [e] }, .ok)

/-- The entry at an absolute index, if it is live. -/
def qpackDynamicEntry (t : DynamicTable) (absolute : ℕ) : Option DynamicEntry :=
  if absolute < t.dropped then none else t.entries[absolute - t.dropped]?

/-! ## What the operations keep -/

section Table

variable {t t' : DynamicTable} {e : DynamicEntry} {limit : ℕ}

lemma length_evictOldest (limit : ℕ) (l : List DynamicEntry) :
    (evictOldest limit l).length ≤ l.length := by
  induction l with
  | nil => exact le_rfl
  | cons e es ih =>
    rw [evictOldest]
    split_ifs
    · exact ih.trans (Nat.le_succ _)
    · exact le_rfl

lemma evictOldest_suffix (limit : ℕ) (l : List DynamicEntry) : evictOldest limit l <:+ l := by
  induction l with
  | nil => exact List.suffix_rfl
  | cons e es ih =>
    rw [evictOldest]
    split_ifs
    · exact ih.trans (List.suffix_cons e es)
    · exact List.suffix_rfl

/-- The entries that are left count no more than the limit. -/
lemma size_evictOldest (limit : ℕ) (l : List DynamicEntry) :
    ((evictOldest limit l).map DynamicEntry.size).sum ≤ limit := by
  induction l with
  | nil => exact Nat.zero_le limit
  | cons e es ih =>
    rw [evictOldest]
    split_ifs with hover
    · exact ih
    · exact not_lt.mp hover

/-- Nothing goes that need not. -/
lemma evictOldest_of_le {l : List DynamicEntry} (h : (l.map DynamicEntry.size).sum ≤ limit) :
    evictOldest limit l = l := by
  cases l with
  | nil => rfl
  | cons e es => rw [evictOldest, if_neg (not_lt.mpr h)]

lemma length_evictOldest_lt {l : List DynamicEntry} (h : limit < (l.map DynamicEntry.size).sum) :
    (evictOldest limit l).length < l.length := by
  cases l with
  | nil => exact absurd h (Nat.not_lt_zero limit)
  | cons e es =>
    rw [evictOldest, if_pos h, List.length_cons]
    exact Nat.lt_succ_of_le (length_evictOldest limit es)

@[simp] lemma makeRoom_insertCount (t : DynamicTable) (limit : ℕ) :
    (t.makeRoom limit).insertCount = t.insertCount := by
  have hlength := length_evictOldest limit t.entries
  simp only [DynamicTable.makeRoom, DynamicTable.insertCount]
  omega

@[simp] lemma setCapacity_insertCount (t : DynamicTable) (capacity : ℕ) :
    (qpackDynamicSetCapacity t capacity).insertCount = t.insertCount := by
  rw [qpackDynamicSetCapacity, makeRoom_insertCount]
  rfl

/-- An insertion leaves the capacity and never makes the count smaller. -/
lemma qpackDynamicInsert_spec (t : DynamicTable) (e : DynamicEntry) :
    (qpackDynamicInsert t e).1.capacity = t.capacity ∧
      (((qpackDynamicInsert t e).2 = .ok ∧
          (qpackDynamicInsert t e).1.insertCount = t.insertCount + 1) ∨
        (qpackDynamicInsert t e).2 = .limit ∧
          (qpackDynamicInsert t e).1.insertCount = t.insertCount) := by
  unfold qpackDynamicInsert
  split_ifs
  · exact ⟨rfl, .inr ⟨rfl, rfl⟩⟩
  · exact ⟨rfl, .inr ⟨rfl, rfl⟩⟩
  · exact ⟨rfl, .inr ⟨rfl, rfl⟩⟩
  · exact ⟨rfl, .inr ⟨rfl, rfl⟩⟩
  · dsimp only
    split_ifs
    · exact ⟨rfl, .inr ⟨rfl, makeRoom_insertCount _ _⟩⟩
    · refine ⟨rfl, .inl ⟨rfl, ?_⟩⟩
      have hcount := makeRoom_insertCount t (t.capacity - e.size)
      unfold DynamicTable.insertCount at hcount ⊢
      dsimp only
      rw [List.length_append, List.length_singleton, ← hcount]
      omega

/-- An insertion leaves the table, makes room and is refused, or makes room and is stored. -/
lemma qpackDynamicInsert_cases (t : DynamicTable) (e : DynamicEntry) :
    qpackDynamicInsert t e = (t, .limit) ∨
      e.size ≤ t.capacity ∧ t.entries.length < qpackDynamicMaxEntries ∧
        (qpackDynamicInsert t e = (t.makeRoom (t.capacity - e.size), .limit) ∨
          qpackDynamicInsert t e =
            ({ t.makeRoom (t.capacity - e.size) with
                entries := (t.makeRoom (t.capacity - e.size)).entries ++ [e] }, .ok)) := by
  unfold qpackDynamicInsert
  split_ifs with hlong hlarge hmany harena
  · exact .inl rfl
  · exact .inl rfl
  · exact .inl rfl
  · exact .inl rfl
  · dsimp only
    split_ifs
    · exact .inr ⟨not_lt.mp hlarge, not_le.mp hmany, .inl rfl⟩
    · exact .inr ⟨not_lt.mp hlarge, not_le.mp hmany, .inr rfl⟩

end Table

/-! ## What was inserted -/

/-- A table holds the newest of some entries, within its capacity. -/
structure NewestOf (inserted : List DynamicEntry) (t : DynamicTable) : Prop where
  newest : t.entries = inserted.drop t.dropped
  counted : t.insertCount = inserted.length
  bounded : (t.entries.map DynamicEntry.size).sum ≤ t.capacity

section Newest

variable {t : DynamicTable} {inserted : List DynamicEntry} {limit : ℕ}

/-- What is left where room was made is the newest. -/
lemma makeRoom_newest (limit : ℕ) (h : t.entries = inserted.drop t.dropped) :
    (t.makeRoom limit).entries = inserted.drop (t.makeRoom limit).dropped := by
  obtain ⟨before, hbefore⟩ := evictOldest_suffix limit t.entries
  have hlength : t.entries.length = before.length + (evictOldest limit t.entries).length := by
    rw [← hbefore, List.length_append, hbefore]
  have hgone : t.entries.length - (evictOldest limit t.entries).length = before.length := by
    omega
  rw [DynamicTable.makeRoom]
  dsimp only
  rw [hgone, ← List.drop_drop, ← h]
  conv_rhs => rw [← hbefore]
  rw [List.drop_left]

lemma NewestOf.makeRoom (h : NewestOf inserted t) (hlimit : limit ≤ t.capacity) :
    NewestOf inserted (t.makeRoom limit) :=
  ⟨makeRoom_newest limit h.newest, (makeRoom_insertCount t limit).trans h.counted,
    (size_evictOldest _ _).trans hlimit⟩

lemma NewestOf.setCapacity (h : NewestOf inserted t) (capacity : ℕ) :
    NewestOf inserted (qpackDynamicSetCapacity t capacity) :=
  ⟨makeRoom_newest capacity h.newest, (setCapacity_insertCount t capacity).trans h.counted,
    size_evictOldest _ _⟩

lemma NewestOf.insert (h : NewestOf inserted t) (e : DynamicEntry) :
    NewestOf (if (qpackDynamicInsert t e).2 = .ok then inserted ++ [e] else inserted)
      (qpackDynamicInsert t e).1 := by
  rcases qpackDynamicInsert_cases t e with heq | ⟨hfits, -, heq | heq⟩
  · rw [heq, if_neg nofun]
    exact h
  · rw [heq, if_neg nofun]
    exact h.makeRoom (Nat.sub_le _ _)
  · rw [heq, if_pos rfl]
    set room := t.makeRoom (t.capacity - e.size) with hroom
    have hleft : NewestOf inserted room := h.makeRoom (Nat.sub_le _ _)
    have hcounted : room.dropped + room.entries.length = inserted.length := hleft.counted
    have hbounded : (room.entries.map DynamicEntry.size).sum ≤ t.capacity - e.size :=
      size_evictOldest _ _
    refine ⟨?_, ?_, ?_⟩
    · dsimp only
      rw [List.drop_append_of_le_length (by omega), ← hleft.newest]
    · rw [DynamicTable.insertCount, List.length_append, List.length_append, ← hcounted,
        List.length_singleton]
      exact (Nat.add_assoc ..).symm
    · dsimp only
      rw [List.map_append, List.sum_append, List.map_singleton, List.sum_singleton]
      exact Nat.add_le_of_le_sub hfits hbounded

end Newest

end WebTransport
