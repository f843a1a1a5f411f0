import PrintBridge.Text.Utf8

/-!
# Paths

Paths are bytes, and slashes part them into segments. Segments that are empty
or a single dot say nothing, except that a relative path may open with a dot.
Two spellings with the same components are one path to a cache, but a
spelling is kept as it is wherever a path is shown.

The parent of a path is taken from its text alone: the last segment that says
something goes, and with it the slashes and dots around it. Two dots at the
end are a segment like any other, so the parent of a path need not be the
directory above. What stays is the opening of the path, a root or a dot,
until nothing but that is left. A parent is always shorter, so walking up
ends.

## Main definitions

* `Path`: A path.
* `Path.join`: A path seen from a directory.
* `Path.components`: What a path says.
* `Path.parent?`: The path without its last segment.
* `Path.ancestors`: A path and its parents.

## Theorems

* `parent?_length_lt`: A parent is shorter.
-/

namespace PrintBridge

/-- A path as it is spelled. -/
structure Path where
  bytes : Bytes
deriving DecidableEq

/-- What a segment of a path says. -/
inductive Component where
  | root
  | current
  | up
  | name (bytes : Bytes)
deriving DecidableEq

namespace Path

/-- The byte that parts segments. -/
def slash : UInt8 := 47

/-- The byte that segments with a meaning of their own are made of. -/
def dot : UInt8 := 46

/-- The path that a text spells. -/
def ofText (s : String) : Path := ⟨Utf8.encode s⟩

/-- The path as text that can be shown. -/
def display (p : Path) : String := Utf8.lossy p.bytes

/-- Whether the path opens at the root. -/
def isAbsolute (p : Path) : Bool := p.bytes.head? == some slash

/-- A path seen from a directory. An absolute path is the same from
    everywhere. -/
def join (directory p : Path) : Path :=
  if p.isAbsolute then p
  else if directory.bytes = [] ∨ directory.bytes.getLast? = some slash then
    ⟨directory.bytes ++ p.bytes⟩
  else ⟨directory.bytes ++ slash :: p.bytes⟩

/-- The segments between slashes, empty ones included. -/
def splitSegments : Bytes → List Bytes
  | [] => [[]]
  | b :: rest =>
    match splitSegments rest with
    | [] => [[b]]
    | first :: others => if b = slash then [] :: first :: others else (b :: first) :: others

/-- The segments of a path. -/
def segments (p : Path) : List Bytes := splitSegments p.bytes

/-- What a segment says, if anything. -/
def componentOf? (segment : Bytes) : Option Component :=
  if segment = [] ∨ segment = [dot] then none
  else if segment = [dot, dot] then some .up
  else some (.name segment)

/-- The opening of a path, and the rest of it. -/
def opening : Bytes → Bytes × Bytes
  | [] => ([], [])
  | b :: rest =>
    if b = slash then ([slash], rest)
    else if b = dot ∧ (rest = [] ∨ rest.head? = some slash) then ([dot], rest)
    else ([], b :: rest)

/-- What a path says. -/
def components (p : Path) : List Component :=
  let (front, body) := opening p.bytes
  let first := if front = [slash] then [.root] else if front = [dot] then [.current] else []
  first ++ (splitSegments body).filterMap componentOf?

/-- The rest of a reversed body without its last segment and the slash before
    that. -/
def dropSegment (reversed : Bytes) : Bytes := (reversed.dropWhile (· != slash)).drop 1

theorem dropSegment_length_lt {reversed : Bytes} (h : reversed ≠ []) :
    (dropSegment reversed).length < reversed.length := by
  have hle : (reversed.dropWhile (· != slash)).length ≤ reversed.length :=
    (List.dropWhile_suffix _).length_le
  have hpos : 0 < reversed.length := List.length_pos_iff.2 h
  rw [dropSegment, List.length_drop]
  rcases Nat.eq_zero_or_pos (reversed.dropWhile (· != slash)).length with h0 | h1 <;> omega

/-- A reversed body without the segments at its end that say nothing. -/
def trimSegments (reversed : Bytes) : Bytes :=
  if h : reversed = [] then []
  else if (componentOf? (reversed.takeWhile (· != slash)).reverse).isNone then
    have := dropSegment_length_lt h
    trimSegments (dropSegment reversed)
  else reversed
termination_by reversed.length

theorem trimSegments_length_le (reversed : Bytes) :
    (trimSegments reversed).length ≤ reversed.length := by
  fun_induction trimSegments reversed with
  | case1 => exact Nat.zero_le _
  | case2 reversed _ _ hlt ih => exact Nat.le_of_lt (Nat.lt_of_le_of_lt ih hlt)
  | case3 => exact Nat.le_refl _

/-- The path without its last segment. A root has no parent, and neither has
    the empty path. -/
def parent? (p : Path) : Option Path :=
  let (front, body) := opening p.bytes
  let kept := trimSegments body.reverse
  if kept = [] then if front = [dot] then some ⟨[]⟩ else none
  else some ⟨front ++ (trimSegments (dropSegment kept)).reverse⟩

theorem opening_append (bytes : Bytes) : (opening bytes).1 ++ (opening bytes).2 = bytes := by
  cases bytes with
  | nil => rfl
  | cons b rest =>
    simp only [opening]
    split
    · rename_i h
      rw [h]
      rfl
    · split
      · rename_i h
        rw [h.1]
        rfl
      · rfl

/-- A parent is shorter. -/
theorem parent?_length_lt {p q : Path} (h : p.parent? = some q) :
    q.bytes.length < p.bytes.length := by
  have hsum : (opening p.bytes).1.length + (opening p.bytes).2.length = p.bytes.length := by
    rw [← List.length_append, opening_append]
  simp only [parent?] at h
  split at h
  · split at h
    · rename_i hfront
      injection h with h
      rw [← h]
      rw [hfront] at hsum
      simp only [List.length_cons, List.length_nil] at hsum ⊢
      omega
    · exact absurd h (by simp only [reduceCtorEq, not_false_eq_true])
  · rename_i hkept
    injection h with h
    rw [← h]
    have h₁ := dropSegment_length_lt hkept
    have h₂ := trimSegments_length_le (dropSegment (trimSegments (opening p.bytes).2.reverse))
    have h₃ := trimSegments_length_le (opening p.bytes).2.reverse
    simp only [List.length_append, List.length_reverse] at *
    omega

/-- A path and its parents, the path itself first. -/
def ancestors (p : Path) : List Path :=
  match h : p.parent? with
  | none => [p]
  | some q =>
    have := parent?_length_lt h
    p :: ancestors q
termination_by p.bytes.length

end Path

end PrintBridge
