import Mathlib.Data.List.Nodup
import PrintBridge.Library.Loader

/-!
# Caching of Libraries

What a loader keeps over any number of loads and resolutions, of which some may
fail.

The routines that a loader has given away point into the libraries that it has
open. So a library may not be lost, and one path may not be opened twice. Both
rest on `Operated.Course`, which lists all that an operation can come to. It
fails before anything is opened, and then the loader is as it was. Or it finds
the path of its library among those that are open. Or it opens the path, which
was not among them, and puts it behind everything else. Or it names no library,
and then it looks at nothing but the image of the process.

A handle is the place of a library, counted from the front, so it stays good as
long as libraries are added behind it. Paths are told apart by their
components, whatever names and spellings they were reached by.

## Main definitions

* `Operation`, `Operation.act`: What a loader can be asked, and doing it.
* `Operation.answer`: What an operation gives once its image is there.
* `Operated`, `perform`: Operations that follow each other.
* `Operated.Course`: What an operation can come to.
* `Loader.Le`: All that is open in one loader is open in another.
* `Operated.Lawful`, `Operated.Shared`: What is promised for an operation, and
  for two of which one is later.

## Theorems

* `act_of_load_error`, `act_of_load_ok`: An operation starts with its load.
* `operated_course`: An operation comes to one of five ends.
* `Course.lawful`: An operation keeps to the law.
* `perform_opened_nodup`: No path is opened twice.
* `perform_shared`: Later operations share what is open.
* `perform_caches`: All that a loader keeps.
-/

namespace PrintBridge

namespace Loader

/-- What a loader can be asked. -/
inductive Operation where
  | load (name : String)
  | resolve (library : Option String) (symbol : String)

/-- What an operation gives: a handle on a library, or a routine. -/
inductive Answer (ρ : Type) where
  | handle (place : Nat)
  | routine (routine : Routine ρ)

variable {ρ : Type}

namespace Operation

/-- The library that an operation loads. -/
def library? : Operation → Option String
  | load name => some name
  | resolve library _ => library

/-- Does an operation. -/
def act (host : Host ρ) : Operation → Action (Loader ρ) (Answer ρ)
  | load name => do return .handle (← Loader.load host name)
  | resolve library symbol => do return .routine (← Loader.resolve host library symbol)

/-- What an operation gives once the image that it needs is there, from the
    library at a place. -/
def answer (place : Nat) (image : Image ρ) : Operation → Except Stop (Answer ρ)
  | load _ => .ok (.handle place)
  | resolve library symbol =>
    match image.lookup? symbol with
    | some routine => .ok (.routine routine)
    | none => .error (.failure (failed (.symbolNotFound (library.getD processName) symbol)))

/-- Once the image is there, an operation can only miss its symbol. -/
theorem answer_eq_error {place : Nat} {image : Image ρ} {o : Operation} {stop : Stop}
    (h : o.answer place image = .error stop) :
    ∃ library symbol, o = .resolve library symbol ∧
      stop = .failure (failed (.symbolNotFound (library.getD processName) symbol)) := by
  cases o with
  | load name => exact absurd h (by simp only [answer, reduceCtorEq, not_false_eq_true])
  | resolve library symbol =>
      refine ⟨library, symbol, rfl, ?_⟩
      rw [answer] at h
      split at h
      · exact absurd h (by simp only [reduceCtorEq, not_false_eq_true])
      · exact (Except.error.inj h).symm

end Operation

/-- An operation that was done or has failed, and the loader around it. -/
structure Operated (ρ : Type) where
  operation : Operation
  before : Loader ρ
  outcome : Outcome (Loader ρ) (Answer ρ)

namespace Operated

/-- The loader after an operation. -/
def after (p : Operated ρ) : Loader ρ := p.outcome.state

/-- The paths that an operation has opened. -/
def opened (p : Operated ρ) : List Path := p.outcome.trace.opened

/-- The path of the library that an operation loads. -/
def path? (host : Host ρ) (p : Operated ρ) : Option Path :=
  p.operation.library?.bind (p.before.resolvePath? host)

theorem path?_of_library? {host : Host ρ} {p : Operated ρ} {name : String}
    (hlibrary : p.operation.library? = some name) :
    p.path? host = p.before.resolvePath? host name := by
  rw [path?, hlibrary, Option.bind_some]

theorem path?_of_process {host : Host ρ} {p : Operated ρ} {symbol : String}
    (hoperation : p.operation = .resolve none symbol) : p.path? host = none := by
  rw [path?, hoperation]
  rfl

/-- An operation fails with an error of the loader. -/
def FailsWith (p : Operated ρ) (e : LoadError) : Prop :=
  p.outcome.result = .error (.failure (failed e))

end Operated

/-- Does an operation on a loader. -/
def operated (host : Host ρ) (l : Loader ρ) (o : Operation) : Operated ρ := ⟨o, l, o.act host l⟩

/-- Does one operation after the other, whichever fail. -/
def perform (host : Host ρ) (l : Loader ρ) : List Operation → List (Operated ρ)
  | [] => []
  | o :: rest => operated host l o :: perform host (operated host l o).after rest

/-- All that is open in a loader is open in another one, which searches the
    same directories. -/
structure Le (l m : Loader ρ) : Prop where
  libraries : l.libraries <+: m.libraries
  process : l.processOpen = true → m.processOpen = true
  searchPaths : m.searchPaths = l.searchPaths

theorem le_refl (l : Loader ρ) : l.Le l := ⟨List.prefix_refl _, id, rfl⟩

theorem Le.trans {l m n : Loader ρ} (h : l.Le m) (h' : m.Le n) : l.Le n :=
  ⟨h.libraries.trans h'.libraries, h'.process ∘ h.process, h'.searchPaths.trans h.searchPaths⟩

/-- The components of the paths that are open, in order. -/
def paths (l : Loader ρ) : List (List Component) := l.libraries.map OpenLibrary.path

/-- A path that was found is that of the library at its place. -/
theorem library_of_find? {l : Loader ρ} {path : Path} {place : Nat}
    (h : l.find? path = some place) :
    ∃ library, l.libraries[place]? = some library ∧ library.path = path.components := by
  rcases List.findIdx?_eq_some_iff_getElem.1 h with ⟨hlt, hpath, _⟩
  exact ⟨l.libraries[place], List.getElem?_eq_getElem hlt, eq_of_beq hpath⟩

/-- A path that was not found is open under no spelling. -/
theorem not_mem_paths_of_find? {l : Loader ρ} {path : Path} (h : l.find? path = none) :
    path.components ∉ l.paths := by
  intro hmem
  rcases List.mem_map.1 hmem with ⟨library, hlibrary, hpath⟩
  have hne := List.findIdx?_eq_none_iff.1 h library hlibrary
  rw [hpath, beq_self_eq_true] at hne
  exact Bool.noConfusion hne

/-- A path that is open stays at its place, under every spelling. -/
theorem Le.find? {l m : Loader ρ} (h : l.Le m) {path path' : Path} {place : Nat}
    (hsame : path'.components = path.components) (hplace : l.find? path = some place) :
    m.find? path' = some place := by
  rcases h.libraries with ⟨new, hnew⟩
  rw [Loader.find?, ← hnew, List.findIdx?_append, hsame]
  rw [Loader.find?] at hplace
  rw [hplace]
  rfl

theorem Le.library {l m : Loader ρ} (h : l.Le m) {place : Nat} {library : OpenLibrary ρ}
    (hlibrary : l.libraries[place]? = some library) : m.libraries[place]? = some library := by
  rcases h.libraries with ⟨new, hnew⟩
  rw [← hnew, List.getElem?_append_left (List.getElem?_eq_some_iff.1 hlibrary).1, hlibrary]

section Steps

variable (host : Host ρ) (l : Loader ρ)

/-- An operation whose load fails is not more than the load. -/
theorem act_of_load_error (o : Operation) (name : String) (stop : Stop)
    (hlibrary : o.library? = some name) (hload : (load host name l).result = .error stop) :
    o.act host l = ⟨.error stop, (load host name l).state, (load host name l).trace⟩ := by
  cases o with
  | load name' =>
      obtain rfl : name' = name := Option.some.inj hlibrary
      exact Action.bind_of_error _ _ l stop hload
  | resolve library symbol =>
      obtain rfl : library = some name := hlibrary
      have himage : image host (some name) l =
          ⟨.error stop, (load host name l).state, (load host name l).trace⟩ :=
        Action.bind_of_error _ _ l stop hload
      have hresolve : resolve host (some name) symbol l =
          ⟨.error stop, (load host name l).state, (load host name l).trace⟩ := by
        rw [resolve, Action.bind_of_error _ _ l stop (by rw [himage]), himage]
      rw [Operation.act, Action.bind_of_error _ _ l stop (by rw [hresolve]), hresolve]

/-- A resolution in an image that is there. -/
theorem resolve_of_image (library : Option String) (symbol : String) (found : Image ρ)
    (himage : (image host library l).result = .ok (some found)) (place : Nat) :
    let o := (Operation.resolve library symbol).act host l
    o.result = (Operation.resolve library symbol).answer place found ∧
      o.state = (image host library l).state ∧
      o.trace.opened = (image host library l).trace.opened := by
  have hresolve : resolve host library symbol l = _ := Action.bind_of_ok _ _ l _ himage
  simp only [Operation.act, Action.bind_return, hresolve, Option.bind_some, Operation.answer]
  rcases found.lookup? symbol with _ | routine
  · exact ⟨rfl, rfl, congrArg _ (List.append_nil _)⟩
  · refine ⟨rfl, rfl, ?_⟩
    -- The routine that was found is only logged.
    exact List.filterMap_append.trans (List.append_nil _)

/-- An operation whose load succeeds leaves the loader as the load does, and
    gives what is in the library. -/
theorem act_of_load_ok (o : Operation) (name : String) (place : Nat) (library : OpenLibrary ρ)
    (hlibrary : o.library? = some name) (hload : (load host name l).result = .ok place)
    (hplace : (load host name l).state.libraries[place]? = some library) :
    (o.act host l).result = o.answer place library.image ∧
      (o.act host l).state = (load host name l).state ∧
      (o.act host l).trace.opened = (load host name l).trace.opened := by
  cases o with
  | load name' =>
      obtain rfl : name' = name := Option.some.inj hlibrary
      rw [Operation.act, Action.bind_return, hload]
      exact ⟨rfl, rfl, rfl⟩
  | resolve origin symbol =>
      obtain rfl : origin = some name := hlibrary
      have himage : image host (some name) l = ⟨.ok (some library.image),
          (load host name l).state, (load host name l).trace ++ []⟩ := by
        refine (Action.bind_of_ok (load host name) _ l place hload).trans ?_
        simp only [hplace, Option.map_some]
      have h := resolve_of_image host l (some name) symbol library.image (by rw [himage]) place
      rw [himage, List.append_nil] at h
      exact h

end Steps

/-- What an operation can come to. -/
inductive Operated.Course (host : Host ρ) (p : Operated ρ) : Prop where
  /-- There is no such library. -/
  | absent (name : String) (hlibrary : p.operation.library? = some name)
      (hpath : p.path? host = none)
      (hfails : p.FailsWith (.libraryNotFound name)) (hafter : p.after = p.before)
      (hopened : p.opened = [])
  /-- What stands at the path cannot be opened. -/
  | refused (name : String) (path : Path) (reason : String)
      (hlibrary : p.operation.library? = some name)
      (hpath : p.path? host = some path)
      (hnew : p.before.find? path = none) (hfails : p.FailsWith (.loadFailed reason))
      (hafter : p.after = p.before) (hopened : p.opened = [])
  /-- The path is open, and the library is taken from there. -/
  | held (name : String) (path : Path) (place : Nat) (library : OpenLibrary ρ)
      (hlibrary : p.operation.library? = some name)
      (hpath : p.path? host = some path)
      (hplace : p.before.find? path = some place)
      (hthere : p.before.libraries[place]? = some library)
      (hresult : p.outcome.result = p.operation.answer place library.image)
      (hafter : p.after = p.before) (hopened : p.opened = [])
  /-- The path is opened, and stands behind all others. -/
  | opened (name : String) (path : Path) (found : Image ρ)
      (hlibrary : p.operation.library? = some name)
      (hpath : p.path? host = some path)
      (hnew : p.before.find? path = none) (hopen : host.openLibrary path = .ok found)
      (hresult : p.outcome.result = p.operation.answer p.before.libraries.length found)
      (hafter : p.after = { p.before with
        libraries := p.before.libraries ++ [⟨path.components, found⟩] })
      (hopened : p.opened = [path])
  /-- No library is named. -/
  | process (symbol : String) (hoperation : p.operation = .resolve none symbol)
      (hresult : p.outcome.result = p.operation.answer 0 host.process)
      (hafter : p.after = { p.before with processOpen := true }) (hopened : p.opened = [])

/-- An operation comes to one of these. -/
theorem operated_course (host : Host ρ) (l : Loader ρ) (o : Operation) :
    (operated host l o).Course host := by
  rcases hlibrary : o.library? with _ | name
  · cases o with
    | load name => exact absurd hlibrary (by simp only [Operation.library?, reduceCtorEq,
        not_false_eq_true])
    | resolve library symbol =>
        obtain rfl : library = none := hlibrary
        have h := resolve_of_image host l none symbol host.process rfl 0
        exact .process symbol rfl h.1 h.2.1 h.2.2
  -- Where a library is named, the load decides: it has no path, its path is open,
  -- or its path is tried, with or without success.
  have hsame : (operated host l o).path? host = l.resolvePath? host name :=
    Operated.path?_of_library? hlibrary
  rcases hpath : l.resolvePath? host name with _ | path
  · have hload := load_of_absent host name l hpath
    have h := act_of_load_error host l o name _ hlibrary (by rw [hload])
    rw [hload] at h
    exact .absent name hlibrary (hsame.trans hpath) (congrArg Outcome.result h)
      (congrArg Outcome.state h) (congrArg (fun u => u.trace.opened) h)
  rcases hplace : l.find? path with _ | place
  · rcases hopen : host.openLibrary path with reason | found
    · have hload := load_of_refused host name l path reason hpath hplace hopen
      have h := act_of_load_error host l o name _ hlibrary (by rw [hload])
      rw [hload] at h
      exact .refused name path reason hlibrary (hsame.trans hpath) hplace
        (congrArg Outcome.result h) (congrArg Outcome.state h)
        (congrArg (fun u => u.trace.opened) h)
    · have hload := load_of_opened host name l path found hpath hplace hopen
      have hthere : (load host name l).state.libraries[l.libraries.length]? =
          some ⟨path.components, found⟩ := by
        rw [hload, List.getElem?_concat_length]
      have h := act_of_load_ok host l o name _ _ hlibrary (by rw [hload]) hthere
      rw [hload] at h
      exact .opened name path found hlibrary (hsame.trans hpath) hplace hopen h.1 h.2.1 h.2.2
  · have hload := load_of_cached host name l path place hpath hplace
    rcases library_of_find? hplace with ⟨library, hthere, _⟩
    have h := act_of_load_ok host l o name place library hlibrary (by rw [hload])
      (by rw [hload, hthere])
    rw [hload] at h
    exact .held name path place library hlibrary (hsame.trans hpath) hplace hthere h.1 h.2.1 h.2.2

/-- What is promised for an operation. -/
structure Operated.Lawful (host : Host ρ) (p : Operated ρ) : Prop where
  /-- What is open stays open, at its place. -/
  keeps : p.before.Le p.after
  /-- The paths that are new are those that were opened. -/
  grows : p.after.paths = p.before.paths ++ p.opened.map Path.components
  /-- An operation stops with nothing but an error of the loader. -/
  stops : ∀ stop, p.outcome.result = .error stop → ∃ e, p.FailsWith e
  /-- A load that fails leaves the loader as it was. -/
  failed_load : ∀ e, p.FailsWith e → (∀ library symbol, e ≠ .symbolNotFound library symbol) →
    p.after = p.before ∧ p.opened = []
  /-- A symbol that is missing leaves the loader as the load of its library
      did, which has succeeded, or with the image of the process open. -/
  missing : ∀ library symbol, p.FailsWith (.symbolNotFound library symbol) →
    (∃ name place, p.operation = .resolve (some name) symbol ∧
        (load host name p.before).result = .ok place ∧
        p.after = (load host name p.before).state) ∨
      (p.operation = .resolve none symbol ∧ p.after = { p.before with processOpen := true })
  /-- Where no library is named, none is loaded, and none can fail to be. -/
  process : ∀ symbol, p.operation = .resolve none symbol →
    p.after = { p.before with processOpen := true } ∧ p.opened = [] ∧
      ∀ e, p.FailsWith e → e = .symbolNotFound processName symbol

/-- What is promised for an operation and a later one. -/
structure Operated.Shared (host : Host ρ) (p q : Operated ρ) : Prop where
  /-- What is open stays open, at its place. -/
  keeps : p.after.Le q.before
  /-- If their libraries have one path, however it is spelled, then it could not
      be opened the first time, or the same handle on the same library serves
      both, and nothing is opened the second time. -/
  shares : ∀ path path', p.path? host = some path → q.path? host = some path' →
    path'.components = path.components →
      (∃ reason, p.FailsWith (.loadFailed reason)) ∨
        ∃ place library, library.path = path.components ∧
          p.after.libraries[place]? = some library ∧
          p.outcome.result = p.operation.answer place library.image ∧
          q.before.libraries[place]? = some library ∧
          q.outcome.result = q.operation.answer place library.image ∧
          q.after = q.before ∧ q.opened = []

namespace Operated

variable {host : Host ρ} {p q : Operated ρ}

theorem failsWith_inj {e e' : LoadError} (h : p.FailsWith e) (h' : p.FailsWith e') : e = e' := by
  have heq := Except.error.inj (h.symm.trans h')
  simpa only [failed, Stop.failure.injEq, PrintError.native.injEq, NativeError.load.injEq] using heq

/-- An operation that has its image fails with a missing symbol only. -/
theorem missing_of_answer {stop : Stop} {place : Nat} {found : Image ρ}
    (hresult : p.outcome.result = p.operation.answer place found)
    (hstop : p.outcome.result = .error stop) :
    ∃ library symbol, p.operation = .resolve library symbol ∧
      p.FailsWith (.symbolNotFound (library.getD processName) symbol) := by
  rcases Operation.answer_eq_error (hresult.symm.trans hstop) with ⟨library, symbol, ho, rfl⟩
  exact ⟨library, symbol, ho, hstop⟩

theorem failsWith_of_answer {e : LoadError} {place : Nat} {found : Image ρ}
    (hresult : p.outcome.result = p.operation.answer place found) (hfails : p.FailsWith e) :
    ∃ library symbol, p.operation = .resolve library symbol ∧
      e = .symbolNotFound (library.getD processName) symbol := by
  rcases missing_of_answer hresult hfails with ⟨library, symbol, ho, hmissing⟩
  exact ⟨library, symbol, ho, failsWith_inj hfails hmissing⟩

theorem ne_resolve_none {name : String} (hlibrary : p.operation.library? = some name)
    (symbol : String) : p.operation ≠ .resolve none symbol := by
  intro h
  rw [h] at hlibrary
  exact absurd hlibrary (by simp only [Operation.library?, reduceCtorEq, not_false_eq_true])

/-- A load that fails keeps to the law, as nothing has changed. -/
theorem lawful_of_failed {name : String} {e : LoadError}
    (hlibrary : p.operation.library? = some name) (hfails : p.FailsWith e)
    (he : ∀ library symbol, e ≠ .symbolNotFound library symbol) (hafter : p.after = p.before)
    (hopened : p.opened = []) : p.Lawful host where
  keeps := hafter ▸ le_refl _
  grows := by rw [hafter, hopened, List.map_nil, List.append_nil]
  stops _ _ := ⟨e, hfails⟩
  failed_load _ _ _ := ⟨hafter, hopened⟩
  missing library symbol hmissing := absurd (failsWith_inj hfails hmissing) (he library symbol)
  process symbol hoperation := absurd hoperation (ne_resolve_none hlibrary symbol)

/-- An operation whose load succeeds keeps to the law if the load does. -/
theorem lawful_of_loaded {name : String} {place : Nat} {found : Image ρ}
    (hlibrary : p.operation.library? = some name)
    (hload : (load host name p.before).result = .ok place)
    (hafter : p.after = (load host name p.before).state)
    (hresult : p.outcome.result = p.operation.answer place found) (hkeeps : p.before.Le p.after)
    (hgrows : p.after.paths = p.before.paths ++ p.opened.map Path.components) :
    p.Lawful host where
  keeps := hkeeps
  grows := hgrows
  stops stop hstop := (missing_of_answer hresult hstop).elim fun _ ⟨_, _, hfails⟩ => ⟨_, hfails⟩
  failed_load e hfails hother := by
    rcases failsWith_of_answer hresult hfails with ⟨_, _, _, he⟩
    exact absurd he (hother _ _)
  missing library symbol hmissing := by
    rcases failsWith_of_answer hresult hmissing with ⟨origin, symbol', ho, he⟩
    -- The symbol that is reported is the one that was asked for.
    obtain ⟨_, rfl⟩ := LoadError.symbolNotFound.inj he
    rw [ho] at hlibrary
    obtain rfl : origin = some name := hlibrary
    exact .inl ⟨name, place, ho, hload, hafter⟩
  process symbol hoperation := absurd hoperation (ne_resolve_none hlibrary symbol)

/-- Whatever an operation comes to, it keeps to the law. -/
theorem Course.lawful (h : p.Course host) : p.Lawful host := by
  cases h with
  | absent name hlibrary hpath hfails hafter hopened =>
      exact lawful_of_failed hlibrary hfails (fun _ _ => LoadError.noConfusion) hafter hopened
  | refused name path reason hlibrary hpath hnew hfails hafter hopened =>
      exact lawful_of_failed hlibrary hfails (fun _ _ => LoadError.noConfusion) hafter hopened
  | held name path place library hlibrary hpath hplace hthere hresult hafter hopened =>
      rw [path?_of_library? hlibrary] at hpath
      have hload := load_of_cached host name p.before path place hpath hplace
      refine lawful_of_loaded hlibrary (by rw [hload]) (by rw [hload, hafter]) hresult
        (hafter ▸ le_refl _) ?_
      rw [hafter, hopened, List.map_nil, List.append_nil]
  | opened name path found hlibrary hpath hnew hopen hresult hafter hopened =>
      rw [path?_of_library? hlibrary] at hpath
      have hload := load_of_opened host name p.before path found hpath hnew hopen
      refine lawful_of_loaded hlibrary (by rw [hload]) (by rw [hload, hafter]) hresult ?_ ?_
      · rw [hafter]
        exact ⟨List.prefix_append _ _, id, rfl⟩
      · rw [hafter, hopened, paths, List.map_append]
        rfl
  | process symbol hoperation hresult hafter hopened =>
      refine ⟨?_, ?_, fun stop hstop => ?_, fun e hfails hother => ?_,
        fun library symbol' hmissing => ?_, fun symbol' hoperation' => ?_⟩
      · rw [hafter]
        exact ⟨List.prefix_refl _, fun _ => rfl, rfl⟩
      · rw [hafter, hopened, List.map_nil, List.append_nil]
        rfl
      · rcases missing_of_answer hresult hstop with ⟨_, _, _, hmissing⟩
        exact ⟨_, hmissing⟩
      · rcases failsWith_of_answer hresult hfails with ⟨_, _, _, he⟩
        exact absurd he (hother _ _)
      · rcases failsWith_of_answer hresult hmissing with ⟨origin, asked, ho, he⟩
        obtain ⟨_, rfl⟩ := LoadError.symbolNotFound.inj he
        obtain ⟨rfl, rfl⟩ := Operation.resolve.inj (hoperation.symm.trans ho)
        exact .inr ⟨hoperation, hafter⟩
      · refine ⟨hafter, hopened, fun e hfails => ?_⟩
        rcases failsWith_of_answer hresult hfails with ⟨origin, asked, ho, he⟩
        obtain ⟨rfl, rfl⟩ := Operation.resolve.inj (hoperation'.symm.trans ho)
        exact he

/-- No path is opened that was open before, and none twice. -/
theorem Course.opened_nodup (h : p.Course host) (hdistinct : p.before.paths.Nodup) :
    p.after.paths.Nodup := by
  cases h with
  | absent _ _ _ _ hafter _ => exact hafter ▸ hdistinct
  | refused _ _ _ _ _ _ _ hafter _ => exact hafter ▸ hdistinct
  | held _ _ _ _ _ _ _ _ _ hafter _ => exact hafter ▸ hdistinct
  | opened name path found _ _ hnew _ _ hafter _ =>
      rw [hafter, paths, List.map_append]
      exact List.nodup_append'.2 ⟨hdistinct, List.nodup_singleton _,
        List.disjoint_singleton.2 (not_mem_paths_of_find? hnew)⟩
  | process _ _ _ hafter _ =>
      rw [hafter]
      exact hdistinct

/-- An operation has its library open at a place and gives what is there, if it
    could be opened. -/
theorem Course.holds (h : p.Course host) {path : Path} (hpath : p.path? host = some path) :
    (∃ reason, p.FailsWith (.loadFailed reason)) ∨
      ∃ place library, p.after.find? path = some place ∧
        p.after.libraries[place]? = some library ∧ library.path = path.components ∧
        p.outcome.result = p.operation.answer place library.image := by
  cases h with
  | absent name hlibrary hpath' _ _ _ =>
      exact absurd (hpath'.symm.trans hpath) (by simp only [reduceCtorEq, not_false_eq_true])
  | refused name path' reason _ _ _ hfails _ _ => exact .inl ⟨reason, hfails⟩
  | held name path' place library hlibrary hpath' hplace hthere hresult hafter _ =>
      obtain rfl : path' = path := Option.some.inj (hpath'.symm.trans hpath)
      rcases library_of_find? hplace with ⟨library', hthere', hcomponents⟩
      obtain rfl : library = library' := Option.some.inj (hthere.symm.trans hthere')
      rw [hafter]
      exact .inr ⟨place, library, hplace, hthere, hcomponents, hresult⟩
  | opened name path' found hlibrary hpath' hnew _ hresult hafter _ =>
      obtain rfl : path' = path := Option.some.inj (hpath'.symm.trans hpath)
      rw [hafter]
      refine .inr ⟨_, _, ?_, List.getElem?_concat_length, rfl, hresult⟩
      -- No earlier library has the path, so the last one is found.
      rw [find?] at hnew
      rw [find?, List.findIdx?_append, hnew, List.findIdx?_singleton, beq_self_eq_true, if_pos rfl,
        Option.none_or, Option.map_some, Nat.zero_add]
  | process symbol hoperation _ _ _ =>
      rw [path?_of_process hoperation] at hpath
      exact absurd hpath (by simp only [reduceCtorEq, not_false_eq_true])

/-- An operation whose library is open takes it from its place, and changes
    nothing. -/
theorem Course.reuses (h : p.Course host) {path : Path} {place : Nat} {library : OpenLibrary ρ}
    (hpath : p.path? host = some path) (hplace : p.before.find? path = some place)
    (hthere : p.before.libraries[place]? = some library) :
    p.outcome.result = p.operation.answer place library.image ∧ p.after = p.before ∧
      p.opened = [] := by
  cases h with
  | absent name hlibrary hpath' _ _ _ =>
      exact absurd (hpath'.symm.trans hpath) (by simp only [reduceCtorEq, not_false_eq_true])
  | refused name path' _ hlibrary hpath' hnew _ _ _ =>
      obtain rfl : path' = path := Option.some.inj (hpath'.symm.trans hpath)
      exact absurd (hnew.symm.trans hplace) (by simp only [reduceCtorEq, not_false_eq_true])
  | held name path' place' library' hlibrary hpath' hplace' hthere' hresult hafter hopened =>
      obtain rfl : path' = path := Option.some.inj (hpath'.symm.trans hpath)
      obtain rfl : place' = place := Option.some.inj (hplace'.symm.trans hplace)
      obtain rfl : library' = library := Option.some.inj (hthere'.symm.trans hthere)
      exact ⟨hresult, hafter, hopened⟩
  | opened name path' _ hlibrary hpath' hnew _ _ _ _ =>
      obtain rfl : path' = path := Option.some.inj (hpath'.symm.trans hpath)
      exact absurd (hnew.symm.trans hplace) (by simp only [reduceCtorEq, not_false_eq_true])
  | process symbol hoperation _ _ _ =>
      rw [path?_of_process hoperation] at hpath
      exact absurd hpath (by simp only [reduceCtorEq, not_false_eq_true])

/-- Once an operation has the library of a path, a later one has it from the
    same place. -/
theorem Course.shared (h : p.Course host) (h' : q.Course host) (hkeeps : p.after.Le q.before) :
    p.Shared host q := by
  refine ⟨hkeeps, fun path path' hpath hpath' hsame => ?_⟩
  rcases h.holds hpath with hfailed | ⟨place, library, hplace, hthere, hcomponents, hresult⟩
  · exact .inl hfailed
  · have hthere' := hkeeps.library hthere
    have hreuses := h'.reuses hpath' (hkeeps.find? hsame hplace) hthere'
    exact .inr ⟨place, library, hcomponents, hthere, hresult, hthere', hreuses⟩

end Operated

section Runs

variable (host : Host ρ)

theorem course_of_mem (operations : List Operation) (l : Loader ρ) (p : Operated ρ)
    (hp : p ∈ perform host l operations) : p.Course host := by
  induction operations generalizing l with
  | nil => exact absurd hp List.not_mem_nil
  | cons o rest ih =>
      rcases List.mem_cons.1 hp with rfl | hlater
      · exact operated_course host l o
      · exact ih _ hlater

/-- What is open before some operations is open before each of them. -/
theorem perform_le (operations : List Operation) (l : Loader ρ) (p : Operated ρ)
    (hp : p ∈ perform host l operations) : l.Le p.before := by
  induction operations generalizing l with
  | nil => exact absurd hp List.not_mem_nil
  | cons o rest ih =>
      rcases List.mem_cons.1 hp with rfl | hlater
      · exact le_refl l
      · exact (operated_course host l o).lawful.keeps.trans (ih _ hlater)

/-- Later operations share what is open. -/
theorem perform_shared (operations : List Operation) (l : Loader ρ) :
    (perform host l operations).Pairwise (Operated.Shared host) := by
  induction operations generalizing l with
  | nil => exact .nil
  | cons o rest ih =>
      refine .cons (fun q hq => ?_) (ih _)
      exact (operated_course host l o).shared (course_of_mem host rest _ q hq)
        (perform_le host rest _ q hq)

/-- The paths that are open at the start and those that are opened later are all
    different. -/
theorem perform_opened_nodup (operations : List Operation) (l : Loader ρ)
    (hdistinct : l.paths.Nodup) :
    (l.paths ++ (perform host l operations).flatMap
      fun p => p.opened.map Path.components).Nodup := by
  induction operations generalizing l with
  | nil =>
      rw [perform, List.flatMap_nil, List.append_nil]
      exact hdistinct
  | cons o rest ih =>
      have hcourse := operated_course host l o
      have h := ih _ (hcourse.opened_nodup hdistinct)
      -- What the first operation opens counts as open for the others.
      rw [hcourse.lawful.grows, List.append_assoc] at h
      rw [perform, List.flatMap_cons]
      exact h

/-- What a loader keeps, over any operations of which some may fail.

    Each of them keeps to the law: nothing that is open is closed or moved, the
    search directories stay what they are, a load that fails changes nothing, a
    symbol that is missing costs no more than the load of its library, and
    without a library the libraries are not looked at. No path is opened twice,
    over the whole run and whatever its spellings. And once a path is open,
    every later operation that comes to it, under whatever name, has the same
    handle on the same library and opens nothing. -/
theorem perform_caches (operations : List Operation) :
    (∀ p ∈ perform host (start host) operations,
      (start host).Le p.before ∧ p.Lawful host) ∧
    ((perform host (start host) operations).flatMap
      fun p => p.opened.map Path.components).Nodup ∧
    (perform host (start host) operations).Pairwise (Operated.Shared host) := by
  refine ⟨fun p hp => ⟨perform_le host operations _ p hp, ?_⟩, ?_, ?_⟩
  · exact (course_of_mem host operations _ p hp).lawful
  · exact perform_opened_nodup host operations (start host) List.nodup_nil
  · exact perform_shared host operations (start host)

end Runs

end Loader

end PrintBridge
