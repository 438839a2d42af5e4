import Mathlib.Data.List.Basic

/-!
# The Go text functions the parsers and path helpers call

`path.Clean`, `path.Join`, the one-byte cases of `strings.Index`, `strings.Trim` and
`strings.Cut`, `strconv.ParseInt` in base 10 for 32 bits, and `filepath.Ext` and `filepath.Dir`,
written after Go's own implementations on a `List Char`. `path.Clean`'s look-ahead of up to two
bytes is a state (`CleanState`) carried from byte to byte, so the loop is structural.
-/
namespace IrodsFs

namespace GoPath

/-- How far `path.Clean` has read into the current path element. -/
inductive CleanState
  /-- Between elements: at the start, or after a slash. -/
  | between
  /-- The element so far is `.`. -/
  | dot
  /-- The element so far is `..`. -/
  | dotDot
  /-- Inside a real element, whose bytes are copied. -/
  | copying
deriving DecidableEq, Repr

def startElem (rooted : Bool) (out : List Char) : List Char :=
  if rooted && out.length != 1 || !rooted && out.length != 0 then out ++ ['/'] else out

/-- The inner loop of a `..` that can backtrack: from index `w`, step back while above `dotdot`
and not at a slash. -/
def unwind (out : List Char) (dotdot : Nat) : Nat → Nat
  | 0 => 0
  | w + 1 => if dotdot < w + 1 ∧ out.get? (w + 1) ≠ some '/' then unwind out dotdot w else w + 1

/-- A `..` element: remove the last element written, or, in a relative path that has nothing left
to remove, write `..` and move the barrier past it. Returns the output and the barrier. -/
def backtrack (rooted : Bool) (out : List Char) (dotdot : Nat) : List Char × Nat :=
  if dotdot < out.length then (out.take (unwind out dotdot (out.length - 1)), dotdot)
  else if !rooted then
    let out := (if 0 < out.length then out ++ ['/'] else out) ++ ['.', '.']
    (out, out.length)
  else (out, dotdot)

/-- What `path.Clean` keeps while it reads: where it is in the current element, the output
written so far (Go's `out.w` is its length), and the length of the prefix a `..` must not
remove. -/
structure CleanBuf where
  state : CleanState
  out : List Char
  dotdot : Nat

/-- One byte of the loop of `path.Clean`. A slash ends the current element, an empty one or a `.`
doing nothing and a `..` backtracking; any other byte extends the element, which becomes real, and
is written out, once it is neither `.` nor `..`. -/
def cleanStep (rooted : Bool) (b : CleanBuf) (c : Char) : CleanBuf :=
  if c = '/' then
    match b.state with
    | .dotDot => ⟨.between, (backtrack rooted b.out b.dotdot).1, (backtrack rooted b.out b.dotdot).2⟩
    | _ => ⟨.between, b.out, b.dotdot⟩
  else
    match b.state with
    | .between =>
        if c = '.' then ⟨.dot, b.out, b.dotdot⟩
        else ⟨.copying, startElem rooted b.out ++ [c], b.dotdot⟩
    | .dot =>
        if c = '.' then ⟨.dotDot, b.out, b.dotdot⟩
        else ⟨.copying, startElem rooted b.out ++ ['.', c], b.dotdot⟩
    | .dotDot => ⟨.copying, startElem rooted b.out ++ ['.', '.', c], b.dotdot⟩
    | .copying => ⟨.copying, b.out ++ [c], b.dotdot⟩

def cleanFinish (rooted : Bool) (b : CleanBuf) : List Char :=
  match b.state with
  | .dotDot => (backtrack rooted b.out b.dotdot).1
  | _ => b.out

/-- Go's `path.Clean`: a rooted path starts from the slash, which no `..` removes; an empty
result is `.`. -/
def clean : List Char → List Char
  | [] => ['.']
  | c :: rest =>
      let out := if c = '/' then cleanFinish true (rest.foldl (cleanStep true) ⟨.between, ['/'], 1⟩)
        else cleanFinish false ((c :: rest).foldl (cleanStep false) ⟨.between, [], 0⟩)
      if out = [] then ['.'] else out

example : clean "a/./b/../../c/".toList = "c".toList := by decide
example : clean "//zone//home/".toList = "/zone/home".toList := by decide
example : clean "/../a/.x/..y".toList = "/a/.x/..y".toList := by decide

/-- The buffer of Go's `path.Join`: the elements, empty ones skipped, joined by slashes. -/
def joinBuf : List Char → List (List Char) → List Char
  | buf, [] => buf
  | buf, e :: elem =>
      joinBuf (if buf ≠ [] ∨ e ≠ [] then (if buf ≠ [] then buf ++ ['/'] else buf) ++ e else buf)
        elem

/-- Go's `path.Join`: empty when every element is, and otherwise the cleaned buffer. -/
def join (elem : List (List Char)) : List Char :=
  if elem.all (·.isEmpty) then [] else clean (joinBuf [] elem)

example : join ["/".toList, "/run//pool.sock".toList] = "/run/pool.sock".toList := by decide

/-! ### `path.Clean` never writes two leading slashes -/

/-- The shape of the output the loop keeps: it never starts with two slashes, and a relative
path's output does not start with one. -/
def OutShape (rooted : Bool) (out : List Char) : Prop :=
  out.take 2 ≠ ['/', '/'] ∧ (rooted = false → out.head? ≠ some '/')

theorem outShape_take {rooted : Bool} {out : List Char} (h : OutShape rooted out) (n : Nat) :
    OutShape rooted (out.take n) := by
  refine ⟨fun heq => h.1 ?_, fun hr hhead => h.2 hr ?_⟩
  · rcases n with _ | _ | n
    · simp at heq
    · cases out <;> simp_all
    · rw [List.take_take] at heq
      rwa [Nat.min_eq_left (by omega)] at heq
  · cases n <;> cases out <;> simp_all

theorem outShape_append {rooted : Bool} {out : List Char} (h : OutShape rooted out)
    (extra : List Char) (hlong : 2 ≤ out.length) : OutShape rooted (out ++ extra) := by
  refine ⟨?_, fun hr => ?_⟩
  · rw [List.take_append_of_le_length hlong]
    exact h.1
  · cases out with
    | nil => simp at hlong
    | cons c out => exact h.2 hr

theorem outShape_startElem {rooted : Bool} {out : List Char} (h : OutShape rooted out)
    {elem : List Char} (helem : elem.head? ≠ some '/') (hne : elem ≠ []) :
    OutShape rooted (startElem rooted out ++ elem) := by
  by_cases hlong : 2 ≤ out.length
  · have hstart : startElem rooted out ++ elem = out ++ ((if rooted && out.length != 1 ||
        !rooted && out.length != 0 then ['/'] else []) ++ elem) := by
      unfold startElem
      split_ifs <;> simp
    rw [hstart]
    exact outShape_append h _ hlong
  · obtain ⟨e, elem, rfl⟩ := List.exists_cons_of_ne_nil hne
    have he : e ≠ '/' := by simpa using helem
    rcases out with _ | ⟨c, _ | ⟨d, out⟩⟩
    · cases rooted <;> simp [OutShape, startElem, he]
    · cases rooted
      · have hc : c ≠ '/' := by simpa [OutShape] using h.2 rfl
        simp [OutShape, startElem, hc]
      · simp [OutShape, startElem, he]
    · simp at hlong

theorem outShape_backtrack {rooted : Bool} {out : List Char} (h : OutShape rooted out)
    (dotdot : Nat) : OutShape rooted (backtrack rooted out dotdot).1 := by
  unfold backtrack
  split_ifs with hback hrel hpos
  · exact outShape_take h _
  · cases rooted
    · rcases out with _ | ⟨c, out⟩
      · simp at hpos
      · have hc : c ≠ '/' := by simpa [OutShape] using h.2 rfl
        simp [OutShape, hc]
    · simp at hrel
  · rcases out with _ | ⟨c, out⟩
    · simp [OutShape]
    · simp at hpos
  · exact h

theorem outShape_appendChar {rooted : Bool} {out : List Char} (h : OutShape rooted out)
    {c : Char} (hc : c ≠ '/') : OutShape rooted (out ++ [c]) := by
  rcases out with _ | ⟨x, _ | ⟨y, out⟩⟩ <;> simp_all [OutShape]

theorem outShape_cleanStep {rooted : Bool} {b : CleanBuf} (h : OutShape rooted b.out) (c : Char) :
    OutShape rooted (cleanStep rooted b c).out := by
  obtain ⟨state, out, dotdot⟩ := b
  by_cases hslash : c = '/'
  · cases state <;> simp only [cleanStep, hslash, if_true]
    · exact h
    · exact h
    · exact outShape_backtrack h _
    · exact h
  · have hhead : ∀ rest : List Char, (c :: rest).head? ≠ some '/' := by simpa using hslash
    cases state <;> by_cases hdot : c = '.' <;>
      simp only [cleanStep, hslash, hdot, if_true, if_false]
    all_goals first
      | exact h
      | exact outShape_startElem h (hhead _) (List.cons_ne_nil _ _)
      | exact outShape_startElem h (by simp) (List.cons_ne_nil _ _)
      | exact outShape_appendChar h hslash
      | exact outShape_appendChar h (by decide)

theorem outShape_foldl {rooted : Bool} (path : List Char) {b : CleanBuf}
    (h : OutShape rooted b.out) : OutShape rooted (path.foldl (cleanStep rooted) b).out := by
  induction path generalizing b with
  | nil => exact h
  | cons c rest ih => exact ih (outShape_cleanStep h c)

theorem outShape_cleanFinish {rooted : Bool} {b : CleanBuf} (h : OutShape rooted b.out) :
    OutShape rooted (cleanFinish rooted b) := by
  unfold cleanFinish
  split
  · exact outShape_backtrack h _
  · exact h

/-- **`path.Clean` never returns two leading slashes.** -/
theorem clean_ne_slash_slash (path rest : List Char) : clean path ≠ '/' :: '/' :: rest := by
  have hshape : OutShape (path.head? = some '/') (clean path) := by
    rcases path with _ | ⟨c, path⟩
    · simp [clean, OutShape]
    · unfold clean
      by_cases hc : c = '/'
      · simp only [hc, if_true, List.head?_cons]
        split_ifs
        · simp [OutShape]
        · exact outShape_cleanFinish (outShape_foldl _ (by simp [OutShape]))
      · simp only [hc, if_false, List.head?_cons, Option.some.injEq]
        split_ifs
        · simp [OutShape]
        · exact outShape_cleanFinish (outShape_foldl _ (by simp [OutShape]))
  intro heq
  exact hshape.1 (by simp [heq])

theorem clean_ne_nil (path : List Char) : clean path ≠ [] := by
  unfold clean
  split
  · simp
  · dsimp only
    split_ifs <;> simp_all

theorem clean_slash_slash (path : List Char) : clean ('/' :: '/' :: path) = clean ('/' :: path) :=
  rfl

/-- `path.Join("/", p)` for a non-empty `p` cleans `p` behind two slashes. -/
theorem join_root {path : List Char} (hpath : path ≠ []) :
    join [['/'], path] = clean ('/' :: '/' :: path) := by
  obtain ⟨c, path, rfl⟩ := List.exists_cons_of_ne_nil hpath
  rfl

/-! ### Appending a plain element

An element with no slash that is neither `.` nor `..` is copied as it is: behind a path and a
slash, `path.Clean` writes it after what it writes for the path and the slash that starts an
element. So a path built by joining plain elements to a base cleans to the base's output with
the elements appended, and paths joined to one base share its output as a prefix. -/

/-- A path element `path.Clean` copies as it is: not empty, no slash, and neither `.` nor `..`. -/
def PlainElem (elem : List Char) : Prop :=
  elem ≠ [] ∧ '/' ∉ elem ∧ elem ≠ ['.'] ∧ elem ≠ ['.', '.']

instance (elem : List Char) : Decidable (PlainElem elem) :=
  inferInstanceAs (Decidable (_ ∧ _))

def cleanLoop (path : List Char) : Bool × CleanBuf :=
  match path with
  | [] => (false, ⟨.between, [], 0⟩)
  | c :: rest =>
      if c = '/' then (true, rest.foldl (cleanStep true) ⟨.between, ['/'], 1⟩)
      else (false, (c :: rest).foldl (cleanStep false) ⟨.between, [], 0⟩)

/-- What `path.Clean` writes for a non-empty path before an element that follows it. -/
def cleanPrefix (path : List Char) : List Char :=
  startElem (cleanLoop path).1 (cleanFinish (cleanLoop path).1 (cleanLoop path).2)

theorem cleanLoop_append {path : List Char} (hpath : path ≠ []) (rest : List Char) :
    cleanLoop (path ++ rest) =
      ((cleanLoop path).1, rest.foldl (cleanStep (cleanLoop path).1) (cleanLoop path).2) := by
  obtain ⟨c, path, rfl⟩ := List.exists_cons_of_ne_nil hpath
  by_cases hc : c = '/' <;> simp [cleanLoop, hc, List.foldl_append]

theorem clean_eq_cleanLoop {path : List Char} (hpath : path ≠ []) :
    clean path = if cleanFinish (cleanLoop path).1 (cleanLoop path).2 = [] then ['.']
      else cleanFinish (cleanLoop path).1 (cleanLoop path).2 := by
  obtain ⟨c, path, rfl⟩ := List.exists_cons_of_ne_nil hpath
  by_cases hc : c = '/' <;> simp [clean, cleanLoop, hc]

theorem length_le_startElem (rooted : Bool) (out : List Char) :
    out.length ≤ (startElem rooted out).length := by
  unfold startElem
  split <;> simp

theorem length_clean_le_cleanPrefix {path : List Char} (hpath : path ≠ []) :
    (clean path).length ≤ (cleanPrefix path).length + 1 := by
  have hle := length_le_startElem (cleanLoop path).1 (cleanFinish (cleanLoop path).1 (cleanLoop path).2)
  rw [clean_eq_cleanLoop hpath, cleanPrefix]
  split
  · simp
  · omega

theorem length_startElem_true_pos (out : List Char) : 0 < (startElem true out).length := by
  unfold startElem
  split <;> simp_all

theorem startElem_of_real {rooted : Bool} {out : List Char} (hpos : 0 < out.length)
    (hrooted : rooted = true → 1 < out.length) : startElem rooted out = out ++ ['/'] := by
  cases rooted with
  | false => simp [startElem, Nat.pos_iff_ne_zero.mp hpos]
  | true => simp [startElem, Nat.ne_of_gt (hrooted rfl)]

theorem cleanStep_slash (rooted : Bool) (b : CleanBuf) :
    cleanStep rooted b '/' = ⟨.between, cleanFinish rooted b, (cleanStep rooted b '/').dotdot⟩ := by
  obtain ⟨state, out, dotdot⟩ := b
  cases state <;> rfl

theorem foldl_copying (rooted : Bool) (out : List Char) (dotdot : Nat) {elem : List Char}
    (h : '/' ∉ elem) :
    elem.foldl (cleanStep rooted) ⟨.copying, out, dotdot⟩ = ⟨.copying, out ++ elem, dotdot⟩ := by
  induction elem generalizing out with
  | nil => simp
  | cons c rest ih =>
      have hc : c ≠ '/' := fun hc => h (hc ▸ List.mem_cons_self c rest)
      rw [List.foldl_cons, show cleanStep rooted ⟨.copying, out, dotdot⟩ c =
        ⟨.copying, out ++ [c], dotdot⟩ by simp [cleanStep, hc],
        ih (out ++ [c]) (fun h' => h (List.mem_cons_of_mem c h'))]
      simp

theorem foldl_plainElem (rooted : Bool) (out : List Char) (dotdot : Nat) {elem : List Char}
    (h : PlainElem elem) :
    elem.foldl (cleanStep rooted) ⟨.between, out, dotdot⟩ =
      ⟨.copying, startElem rooted out ++ elem, dotdot⟩ := by
  obtain ⟨hne, hslash, hdot, hdotdot⟩ := h
  obtain ⟨c, rest, rfl⟩ := List.exists_cons_of_ne_nil hne
  have hrest : '/' ∉ rest := fun h' => hslash (List.mem_cons_of_mem c h')
  have hc : c ≠ '/' := fun hc => hslash (hc ▸ List.mem_cons_self c rest)
  by_cases hcdot : c = '.'
  -- an element starting with a dot is real from its first byte that breaks `.` and `..`
  · subst hcdot
    cases rest with
    | nil => exact absurd rfl hdot
    | cons c₂ rest₂ =>
        have hrest₂ : '/' ∉ rest₂ := fun h' => hrest (List.mem_cons_of_mem c₂ h')
        have hc₂ : c₂ ≠ '/' := fun h' => hrest (h' ▸ List.mem_cons_self c₂ rest₂)
        by_cases hc₂dot : c₂ = '.'
        · subst hc₂dot
          cases rest₂ with
          | nil => exact absurd rfl hdotdot
          | cons c₃ rest₃ =>
              have hc₃ : c₃ ≠ '/' := fun h' => hrest₂ (h' ▸ List.mem_cons_self c₃ rest₃)
              simp [cleanStep, hc, hc₃,
                foldl_copying _ _ _ fun h' => hrest₂ (List.mem_cons_of_mem c₃ h')]
        · simp [cleanStep, hc, hc₂, hc₂dot, foldl_copying _ _ _ hrest₂]
  · simp [cleanStep, hc, hcdot, foldl_copying _ _ _ hrest]

theorem foldl_slash_plainElem (rooted : Bool) (b : CleanBuf) {elem : List Char}
    (h : PlainElem elem) :
    ('/' :: elem).foldl (cleanStep rooted) b =
      ⟨.copying, startElem rooted (cleanFinish rooted b) ++ elem, (cleanStep rooted b '/').dotdot⟩ := by
  rw [List.foldl_cons, cleanStep_slash, foldl_plainElem _ _ _ h]

/-- **A plain element after a path is appended to what the path writes.** -/
theorem clean_append_plainElem {path elem : List Char} (hpath : path ≠ []) (h : PlainElem elem) :
    clean (path ++ '/' :: elem) = cleanPrefix path ++ elem := by
  rw [clean_eq_cleanLoop (List.append_ne_nil_of_left_ne_nil hpath _), cleanLoop_append hpath,
    foldl_slash_plainElem _ _ h]
  simp [cleanFinish, cleanPrefix, h.1]

theorem cleanPrefix_append_plainElem {path elem : List Char} (hpath : path ≠ [])
    (h : PlainElem elem) :
    cleanPrefix (path ++ '/' :: elem) = clean (path ++ '/' :: elem) ++ ['/'] := by
  have helem : 0 < elem.length := List.length_pos.mpr h.1
  have hpos : 0 < (cleanPrefix path ++ elem).length := by
    rw [List.length_append]; omega
  have hrooted : (cleanLoop path).1 = true → 1 < (cleanPrefix path ++ elem).length := by
    intro hr
    have hpre : 0 < (cleanPrefix path).length := by
      rw [cleanPrefix, hr]; exact length_startElem_true_pos _
    rw [List.length_append]; omega
  rw [clean_append_plainElem hpath h, ← startElem_of_real hpos hrooted]
  simp only [cleanPrefix, cleanLoop_append hpath, foldl_slash_plainElem _ _ h]
  rfl

/-- **Two plain elements after a path:** the second is appended to the first's output. -/
theorem clean_append_plainElem_plainElem {path elem elem' : List Char} (hpath : path ≠ [])
    (h : PlainElem elem) (h' : PlainElem elem') :
    clean (path ++ '/' :: (elem ++ '/' :: elem')) = clean (path ++ '/' :: elem) ++ '/' :: elem' := by
  have hsplit : path ++ '/' :: (elem ++ '/' :: elem') = (path ++ '/' :: elem) ++ '/' :: elem' := by
    simp
  rw [hsplit, clean_append_plainElem (List.append_ne_nil_of_left_ne_nil hpath _) h',
    cleanPrefix_append_plainElem hpath h]
  simp

theorem join_pair {base elem : List Char} (hbase : base ≠ []) :
    join [base, elem] = clean (base ++ '/' :: elem) := by
  simp [join, joinBuf, hbase]

end GoPath

namespace GoStrings

/-- `strings.Index` with a one-byte separator (`strings.IndexByte`): the index of the first `c`,
or -1. -/
def index (s : List Char) (c : Char) : Int :=
  match s.findIdx? (· == c) with
  | some i => i
  | none => -1

/-- `strings.LastIndex` with a one-byte separator: the index of the last `c`, or -1. -/
def lastIndex (s : List Char) (c : Char) : Int :=
  match s.reverse.findIdx? (· == c) with
  | some i => s.length - 1 - i
  | none => -1

/-- `strings.Cut` with a one-byte separator: the text before the first `c`, the text after it,
and whether there was one. -/
def cut (s : List Char) (c : Char) : List Char × List Char × Bool :=
  (s.takeWhile (· != c), (s.dropWhile (· != c)).drop 1, s.contains c)

/-- `strings.Trim` with a one-byte cutset: `trimLeftByte (trimRightByte s c) c`. -/
def trim (s : List Char) (c : Char) : List Char :=
  ((s.reverse.dropWhile (· == c)).reverse).dropWhile (· == c)

theorem findIdx?_eq_none {s : List Char} {c : Char} (h : c ∉ s) :
    s.findIdx? (· == c) = none := by
  rw [List.findIdx?_eq_none_iff]
  intro a ha
  rw [beq_eq_false_iff_ne]
  rintro rfl
  exact h ha

theorem index_of_not_mem {s : List Char} {c : Char} (h : c ∉ s) : index s c = -1 := by
  simp [index, findIdx?_eq_none h]

theorem index_append_cons {pre post : List Char} {c : Char} (h : c ∉ pre) :
    index (pre ++ c :: post) c = pre.length := by
  have hfind : (pre ++ c :: post).findIdx? (· == c) = some pre.length := by
    induction pre with
    | nil => simp [List.findIdx?_cons]
    | cons d pre ih =>
        have hd : d ≠ c := fun hdc => h (hdc ▸ List.mem_cons_self d pre)
        simp [List.findIdx?_cons, hd, ih fun hc => h (List.mem_cons_of_mem d hc)]
  simp [index, hfind]

theorem exists_eq_append_cons_of_mem {s : List Char} {c : Char} (h : c ∈ s) :
    ∃ pre post, s = pre ++ c :: post ∧ c ∉ pre := by
  induction s with
  | nil => cases h
  | cons d s ih =>
      by_cases hd : d = c
      · exact ⟨[], s, by rw [hd]; rfl, List.not_mem_nil c⟩
      · obtain ⟨pre, post, rfl, hpre⟩ := ih ((List.mem_cons.1 h).resolve_left fun h => hd h.symm)
        exact ⟨d :: pre, post, rfl, by simp [Ne.symm hd, hpre]⟩

theorem lastIndex_of_not_mem {s : List Char} {c : Char} (h : c ∉ s) : lastIndex s c = -1 := by
  simp [lastIndex, findIdx?_eq_none (by simpa using h : c ∉ s.reverse)]

theorem cut_of_not_mem {s : List Char} {c : Char} (h : c ∉ s) : cut s c = (s, [], false) := by
  have hall : ∀ a ∈ s, (a != c) = true := fun a ha => by
    simpa using fun hac : a = c => h (hac ▸ ha)
  simp [cut, List.takeWhile_eq_self_iff.mpr hall, List.dropWhile_eq_nil_iff.mpr hall, h]

theorem trim_of_not_mem {s : List Char} {c : Char} (h : c ∉ s) : trim s c = s := by
  have hhead : ∀ l : List Char, c ∉ l → l.dropWhile (· == c) = l := by
    intro l hl
    cases l with
    | nil => rfl
    | cons a l =>
        have ha : (a == c) = false := by
          simp only [beq_eq_false_iff_ne, ne_eq]
          rintro rfl
          exact hl (List.mem_cons_self a l)
        simp [List.dropWhile_cons, ha]
  rw [trim, hhead s.reverse (by simpa using h), List.reverse_reverse, hhead s h]

end GoStrings

namespace GoStrconv

inductive NumErrorKind
  | ErrRange
  | ErrSyntax
deriving DecidableEq, Repr

structure NumError where
  Func : String
  Num : List Char
  Err : NumErrorKind
deriving DecidableEq, Repr

/-- The digit loop of `strconv.ParseUint` in base 10: a byte that is not a digit is a syntax error,
and a value past `maxVal` a range error, whichever comes first. (The value never passes
`maxVal`, so the loop's check that `n * 10` fits 64 bits never fires.) -/
def parseUintLoop (maxVal : Nat) : Nat → List Char → Except NumErrorKind Nat
  | n, [] => .ok n
  | n, c :: rest =>
      if c.isDigit then
        if maxVal < n * 10 + (c.toNat - '0'.toNat) then .error .ErrRange
        else parseUintLoop maxVal (n * 10 + (c.toNat - '0'.toNat)) rest
      else .error .ErrSyntax

/-- `strconv.ParseUint(s, 10, 32)`. -/
def ParseUint (s : List Char) : Except NumError Nat :=
  if s = [] then .error ⟨"ParseUint", s, .ErrSyntax⟩
  else match parseUintLoop 4294967295 0 s with
    | .ok n => .ok n
    | .error err => .error ⟨"ParseUint", s, err⟩

/-- `strconv.ParseInt(s, 10, 32)`: an optional sign, then `ParseUint`, whose range errors count as
the largest value; then the range of a 32-bit integer. -/
def ParseInt (s : List Char) : Except NumError Int :=
  match s with
  | [] => .error ⟨"ParseInt", s, .ErrSyntax⟩
  | c :: rest =>
      let neg := c == '-'
      match ParseUint (if c = '+' ∨ c = '-' then rest else s) with
      | .error ⟨_, _, .ErrSyntax⟩ => .error ⟨"ParseInt", s, .ErrSyntax⟩
      | result =>
          let un := match result with
            | .ok un => un
            | .error _ => 4294967295
          if !neg ∧ 2147483648 ≤ un then .error ⟨"ParseInt", s, .ErrRange⟩
          else if neg ∧ 2147483648 < un then .error ⟨"ParseInt", s, .ErrRange⟩
          else .ok (if neg then -un else un)

example : ParseInt "1247".toList = .ok 1247 := rfl
example : ParseInt "-2147483648".toList = .ok (-2147483648) := rfl
example : ParseInt "2147483648".toList = .error ⟨"ParseInt", "2147483648".toList, .ErrRange⟩ :=
  rfl

end GoStrconv

namespace GoFilepath

/-- The loop of Go's `filepath.Ext`, reading the path backwards: `rev` is what is left of it,
reversed, and `tail` the bytes already read. It stops at a slash, and at a dot returns the dot
and the bytes after it. -/
def extLoop : List Char → List Char → List Char
  | [], _ => []
  | c :: rest, tail =>
      if c = '/' then [] else if c = '.' then c :: tail else extLoop rest (c :: tail)

/-- Go's `filepath.Ext` on Unix: the last element's bytes from its last dot, or nothing. -/
def Ext (path : List Char) : List Char :=
  extLoop path.reverse []

example : Ext "/etc/irodsfs/mount.yaml".toList = ".yaml".toList := by decide
example : Ext "/etc/irodsfs.d/mount".toList = [] := by decide

/-- Go's `filepath.Dir` on Unix: the path up to its last slash, cleaned. -/
def Dir (path : List Char) : List Char :=
  GoPath.clean (path.take (GoStrings.lastIndex path '/' + 1).toNat)

example : Dir "/var/lib/irodsfs/9m4e.log".toList = "/var/lib/irodsfs".toList := by decide

theorem extLoop_suffix : ∀ rev tail : List Char,
    extLoop rev tail = [] ∨ extLoop rev tail <:+ rev.reverse ++ tail
  | [], _ => .inl rfl
  | c :: rest, tail => by
      unfold extLoop
      split_ifs with hslash hdot
      · exact .inl rfl
      · exact .inr (by simp)
      · rcases extLoop_suffix rest (c :: tail) with h | h
        · exact .inl h
        · exact .inr (by simpa using h)

theorem extLoop_plain {s : List Char} (hdot : '.' ∉ s) (hslash : '/' ∉ s) (rest tail : List Char) :
    extLoop (s.reverse ++ rest) tail = extLoop rest (s ++ tail) := by
  induction s generalizing rest with
  | nil => rfl
  | cons c s ih =>
      have hc : c ≠ '/' ∧ c ≠ '.' :=
        ⟨fun h => hslash (h ▸ List.mem_cons_self c s), fun h => hdot (h ▸ List.mem_cons_self c s)⟩
      rw [List.reverse_cons, List.append_assoc, List.singleton_append,
        ih (fun h => hdot (List.mem_cons_of_mem c h)) (fun h => hslash (List.mem_cons_of_mem c h))]
      simp [extLoop, hc.1, hc.2]

/-- **The extension is the path's suffix from a dot with no dot or slash after it.** -/
theorem Ext_eq_iff {path s : List Char} (hdot : '.' ∉ s) (hslash : '/' ∉ s) :
    Ext path = '.' :: s ↔ ('.' :: s) <:+ path := by
  constructor
  · intro h
    rcases extLoop_suffix path.reverse [] with hnil | hsuffix
    · exact absurd ((h.symm.trans hnil)) (List.cons_ne_nil _ _)
    · rw [← Ext, h] at hsuffix
      simpa using hsuffix
  · rintro ⟨pre, rfl⟩
    rw [Ext, List.reverse_append, List.reverse_cons, List.append_assoc, List.singleton_append,
      extLoop_plain hdot hslash]
    simp [extLoop]

end GoFilepath

end IrodsFs
