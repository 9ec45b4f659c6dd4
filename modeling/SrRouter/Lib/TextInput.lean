import Mathlib.Data.List.Basic
import Mathlib.Data.List.TakeWhile
import Mathlib.Tactic.Common

/-!
Reading a text line by line and word by word.

A line ends with its terminator, the last one perhaps without. A reader of
bounded size (`fgets`) hands out a line at once when it fits, and cuts it
otherwise; the terminator that did not fit then comes as a line of its own.
A scanner for words (`scanf` with `%s`) skips blanks and takes what follows
up to the next blank; what it finds one after the other are the words of the
text.
-/

namespace TextInput

variable {α : Type}

/-! ### Lines -/

section Lines

variable [DecidableEq α] (nl : α)

/-- The lines of a text, each with its terminator. -/
def lines : List α → List (List α)
  | [] => []
  | a :: text =>
    if a = nl then [a] :: lines text
    else match lines text with
      | [] => [[a]]
      | line :: rest => (a :: line) :: rest

/-- Read up to a terminator, but at most `room` characters: what was read and
what is left. -/
def fgets : Nat → List α → List α × List α
  | 0, text => ([], text)
  | _ + 1, [] => ([], [])
  | room + 1, a :: text =>
    if a = nl then ([a], text)
    else (a :: (fgets room text).1, (fgets room text).2)

/-- What is read until the text is at its end, for at most `fuel` reads. -/
def readAll (room : Nat) : Nat → List α → List (List α)
  | 0, _ => []
  | _ + 1, [] => []
  | fuel + 1, text => (fgets nl room text).1 :: readAll room fuel (fgets nl room text).2

def reads (room : Nat) (text : List α) : List (List α) := readAll nl room text.length text

variable {nl}

theorem lines_append {line : List α} (h : nl ∉ line) (text : List α) :
    lines nl (line ++ nl :: text) = (line ++ [nl]) :: lines nl text := by
  induction line with
  | nil => simp [lines]
  | cons a line ih =>
      obtain ⟨hne, hline⟩ := List.ne_and_not_mem_of_not_mem_cons h
      rw [List.cons_append, lines, if_neg (Ne.symm hne), ih hline]
      rfl

theorem lines_of_not_mem {line : List α} (h : nl ∉ line) (hne : line ≠ []) :
    lines nl line = [line] := by
  induction line with
  | nil => exact absurd rfl hne
  | cons a line ih =>
      obtain ⟨hnl, hline⟩ := List.ne_and_not_mem_of_not_mem_cons h
      rw [lines, if_neg (Ne.symm hnl)]
      cases line with
      | nil => rfl
      | cons b line => rw [ih hline (List.cons_ne_nil b line)]

/-- **Induction on the lines of a text.** -/
@[elab_as_elim]
theorem line_induction (nl : α) {motive : List α → Prop} (text : List α) (nil : motive [])
    (last : ∀ line, nl ∉ line → line ≠ [] → motive line)
    (line : ∀ line text, nl ∉ line → motive text → motive (line ++ nl :: text)) : motive text := by
  suffices hall : ∀ n (text : List α), text.length ≤ n → motive text from
    hall _ text (Nat.le_refl _)
  intro n
  induction n with
  | zero =>
      intro text hlen
      obtain rfl := List.eq_nil_of_length_eq_zero (Nat.le_zero.mp hlen)
      exact nil
  | succ n ih =>
      intro text hlen
      by_cases hmem : nl ∈ text
      · obtain ⟨front, back, rfl, hfront⟩ := List.eq_append_cons_of_mem hmem
        refine line front back hfront (ih back ?_)
        rw [List.length_append, List.length_cons] at hlen
        omega
      · by_cases hnil : text = []
        · exact hnil ▸ nil
        · exact last text hmem hnil

theorem fgets_append {line : List α} (h : nl ∉ line) (text : List α) {room : Nat}
    (hlen : line.length < room) : fgets nl room (line ++ nl :: text) = (line ++ [nl], text) := by
  induction line generalizing room with
  | nil =>
      obtain ⟨n, rfl⟩ := Nat.exists_eq_succ_of_ne_zero (Nat.ne_of_gt hlen)
      simp [fgets]
  | cons a line ih =>
      obtain ⟨hne, hline⟩ := List.ne_and_not_mem_of_not_mem_cons h
      obtain ⟨n, rfl⟩ := Nat.exists_eq_succ_of_ne_zero (Nat.ne_of_gt (Nat.zero_lt_of_lt hlen))
      rw [List.cons_append, fgets, if_neg (Ne.symm hne), ih hline (Nat.lt_of_succ_lt_succ hlen)]
      rfl

theorem fgets_length {line : List α} (h : nl ∉ line) (text : List α) :
    fgets nl line.length (line ++ text) = (line, text) := by
  induction line with
  | nil => cases text <;> rfl
  | cons a line ih =>
      obtain ⟨hne, hline⟩ := List.ne_and_not_mem_of_not_mem_cons h
      rw [List.cons_append, List.length_cons, fgets, if_neg (Ne.symm hne), ih hline]

theorem fgets_of_not_mem {line : List α} (h : nl ∉ line) {room : Nat}
    (hlen : line.length ≤ room) : fgets nl room line = (line, []) := by
  induction line generalizing room with
  | nil => cases room <;> rfl
  | cons a line ih =>
      obtain ⟨hne, hline⟩ := List.ne_and_not_mem_of_not_mem_cons h
      obtain ⟨n, rfl⟩ := Nat.exists_eq_succ_of_ne_zero (Nat.ne_of_gt (Nat.zero_lt_of_lt hlen))
      rw [fgets, if_neg (Ne.symm hne), ih hline (Nat.le_of_succ_le_succ hlen)]

theorem length_fgets_lt (nl : α) {room : Nat} (hroom : 0 < room) {text : List α} (hne : text ≠ []) :
    (fgets nl room text).2.length < text.length := by
  induction text generalizing room with
  | nil => exact absurd rfl hne
  | cons a text ih =>
      obtain ⟨n, rfl⟩ := Nat.exists_eq_succ_of_ne_zero (Nat.ne_of_gt hroom)
      rw [fgets]
      split
      · exact Nat.lt_succ_self _
      · by_cases hn : 0 < n
        · by_cases htext : text = []
          · subst htext
            rw [fgets_of_not_mem List.not_mem_nil (Nat.zero_le n)]
            exact Nat.zero_lt_one
          · exact Nat.lt_succ_of_lt (ih hn htext)
        · obtain rfl : n = 0 := by omega
          exact Nat.lt_succ_self _

theorem readAll_eq_reads {room : Nat} (hroom : 0 < room) {fuel : Nat} {text : List α}
    (hfuel : text.length ≤ fuel) : readAll nl room fuel text = reads nl room text := by
  suffices hall : ∀ n fuel fuel' (text : List α), text.length ≤ n → text.length ≤ fuel →
      text.length ≤ fuel' → readAll nl room fuel text = readAll nl room fuel' text from
    hall _ _ _ _ (Nat.le_refl _) hfuel (Nat.le_refl _)
  intro n
  induction n with
  | zero =>
      intro fuel fuel' text hn _ _
      obtain rfl := List.eq_nil_of_length_eq_zero (Nat.le_zero.mp hn)
      cases fuel <;> cases fuel' <;> rfl
  | succ n ih =>
      intro fuel fuel' text hn hfuel hfuel'
      cases text with
      | nil => cases fuel <;> cases fuel' <;> rfl
      | cons a text =>
          have hlt := length_fgets_lt nl hroom (List.cons_ne_nil a text)
          rw [List.length_cons] at hn hfuel hfuel' hlt
          obtain ⟨m, rfl⟩ := Nat.exists_eq_succ_of_ne_zero (n := fuel) (by omega)
          obtain ⟨m', rfl⟩ := Nat.exists_eq_succ_of_ne_zero (n := fuel') (by omega)
          rw [readAll, readAll, ih m m' _ (by omega) (by omega) (by omega)]
          · exact List.cons_ne_nil a text
          · exact List.cons_ne_nil a text

theorem reads_nil (room : Nat) : reads nl room [] = [] := rfl

theorem reads_of_ne_nil {room : Nat} (hroom : 0 < room) {text : List α} (hne : text ≠ []) :
    reads nl room text = (fgets nl room text).1 :: reads nl room (fgets nl room text).2 := by
  have hlt := length_fgets_lt nl hroom hne
  cases text with
  | nil => exact absurd rfl hne
  | cons a text =>
      rw [List.length_cons] at hlt
      rw [reads, List.length_cons, readAll, readAll_eq_reads hroom (by omega)]
      exact List.cons_ne_nil a text

def bare (nl : α) (line : List α) : List α := line.takeWhile fun a => a ≠ nl

theorem bare_append {line : List α} (h : nl ∉ line) (text : List α) :
    bare nl (line ++ nl :: text) = line := by
  rw [bare, List.takeWhile_append_of_pos]
  · simp
  · intro a ha
    simpa using ne_of_mem_of_not_mem ha h

theorem bare_of_not_mem {line : List α} (h : nl ∉ line) : bare nl line = line := by
  rw [bare, List.takeWhile_eq_self_iff]
  intro a ha
  simpa using ne_of_mem_of_not_mem ha h

theorem length_le_bare (text : List α) :
    ∀ line ∈ lines nl text, line.length ≤ (bare nl line).length + 1 := by
  induction text using line_induction nl with
  | nil => exact fun _ h => absurd h List.not_mem_nil
  | last line hline hne =>
      rw [lines_of_not_mem hline hne]
      refine List.forall_mem_cons.mpr ⟨?_, fun _ h => absurd h List.not_mem_nil⟩
      rw [bare_of_not_mem hline]
      exact Nat.le_succ _
  | line line text hline ih =>
      rw [lines_append hline]
      refine List.forall_mem_cons.mpr ⟨?_, ih⟩
      rw [bare_append hline, List.length_append, List.length_singleton]

theorem lines_ne_nil (nl : α) {text : List α} (h : text ≠ []) : lines nl text ≠ [] := by
  induction text using line_induction nl with
  | nil => exact absurd rfl h
  | last line hline hne =>
      rw [lines_of_not_mem hline hne]
      exact List.cons_ne_nil _ _
  | line line text hline =>
      rw [lines_append hline]
      exact List.cons_ne_nil _ _

def pieces (nl : α) (room : Nat) (line : List α) : List (List α) :=
  if line.length ≤ room then [line] else [bare nl line, [nl]]

/-- **What is read.** Every line at once, if only its terminator may be too
much, and then the terminator on its own. -/
theorem reads_eq_pieces {room : Nat} (hroom : 0 < room) (text : List α)
    (h : ∀ line ∈ lines nl text, (bare nl line).length ≤ room) :
    reads nl room text = (lines nl text).flatMap (pieces nl room) := by
  induction text using line_induction nl with
  | nil => rfl
  | last line hline hne =>
      rw [lines_of_not_mem hline hne] at h ⊢
      have hlen := h line List.mem_cons_self
      rw [bare_of_not_mem hline] at hlen
      rw [reads_of_ne_nil hroom hne, fgets_of_not_mem hline hlen]
      simp [pieces, hlen, reads_nil]
  | line line text hline ih =>
      rw [lines_append hline] at h ⊢
      obtain ⟨hlen, hrest⟩ := List.forall_mem_cons.mp h
      rw [bare_append hline] at hlen
      rw [reads_of_ne_nil hroom (by simp), List.flatMap_cons, ← ih hrest]
      by_cases hlt : line.length < room
      · rw [fgets_append hline text hlt, pieces, if_pos (by simpa using Nat.succ_le_of_lt hlt)]
        rfl
      · -- the terminator is left over
        obtain rfl : line.length = room := Nat.le_antisymm hlen (Nat.not_lt.mp hlt)
        have hone : fgets nl line.length (nl :: text) = ([nl], text) :=
          fgets_append List.not_mem_nil text hroom
        rw [fgets_length hline, reads_of_ne_nil hroom (List.cons_ne_nil _ _), hone, pieces,
          if_neg (by simp), bare_append hline]
        rfl

theorem length_flatMap_pieces (nl : α) (room : Nat) (ls : List (List α)) :
    ls.length ≤ (ls.flatMap (pieces nl room)).length ∧
      ((ls.flatMap (pieces nl room)).length = ls.length → ∀ line ∈ ls, line.length ≤ room) := by
  induction ls with
  | nil => exact ⟨Nat.le_refl _, fun _ _ h => absurd h List.not_mem_nil⟩
  | cons line ls ih =>
      obtain ⟨hle, hall⟩ := ih
      rw [List.flatMap_cons, List.length_append, List.length_cons, pieces]
      split
      · next hlen =>
          rw [List.length_singleton]
          exact ⟨by omega, fun heq => List.forall_mem_cons.mpr ⟨hlen, hall (by omega)⟩⟩
      · rw [List.length_cons, List.length_singleton]
        exact ⟨by omega, fun heq => by omega⟩

/-- Lines that fit are read as they are. -/
theorem reads_eq_lines {room : Nat} (hroom : 0 < room) (text : List α)
    (h : ∀ line ∈ lines nl text, line.length ≤ room) : reads nl room text = lines nl text := by
  have hbare : ∀ line ∈ lines nl text, (bare nl line).length ≤ room := fun line hline =>
    Nat.le_trans (List.takeWhile_sublist _).length_le (h line hline)
  have hpieces : ∀ line ∈ lines nl text, pieces nl room line = [line] := fun line hline =>
    if_pos (h line hline)
  rw [reads_eq_pieces hroom text hbare, List.flatMap_def, List.map_congr_left hpieces,
    ← List.flatMap_def, List.flatMap_singleton']

end Lines

/-! ### Words -/

section Words

variable (blank : α → Bool)

def words (text : List α) : List (List α) := (text.splitOnP blank).filter fun w => !w.isEmpty

/-- `%s`: skip blanks, and take what follows up to the next blank. -/
def scanWord (text : List α) : Option (List α × List α) :=
  match text.dropWhile blank with
  | [] => none
  | a :: text => some ((a :: text).takeWhile fun a => !blank a,
      (a :: text).dropWhile fun a => !blank a)

def scanWords : Nat → List α → List (List α)
  | 0, _ => []
  | n + 1, text =>
    match scanWord blank text with
    | none => []
    | some (word, rest) => word :: scanWords n rest

variable {blank}

theorem words_append_blank {a : α} (ha : blank a = true) (text rest : List α) :
    words blank (text ++ a :: rest) = words blank text ++ words blank rest := by
  rw [words, List.splitOnP_append_cons text rest ha, List.filter_append]
  rfl

theorem words_cons_blank {a : α} (ha : blank a = true) (text : List α) :
    words blank (a :: text) = words blank text := words_append_blank ha [] text

theorem words_dropWhile (text : List α) :
    words blank (text.dropWhile blank) = words blank text := by
  induction text with
  | nil => rfl
  | cons a text ih =>
      by_cases ha : blank a = true
      · rw [List.dropWhile_cons_of_pos ha, ih, words_cons_blank ha]
      · rw [List.dropWhile_cons_of_neg ha]

theorem words_of_forall {word : List α} (hne : word ≠ []) (h : ∀ a ∈ word, blank a = false) :
    words blank word = [word] := by
  rw [words, List.splitOnP_eq_singleton h]
  simpa using hne

/-- **The scanner finds the words.** -/
theorem scanWords_eq_take (n : Nat) (text : List α) :
    scanWords blank n text = (words blank text).take n := by
  induction n generalizing text with
  | zero => rfl
  | succ n ih =>
      rw [scanWords, scanWord, ← words_dropWhile text]
      cases htext : text.dropWhile blank with
      | nil => rfl
      | cons a rest =>
          have ha : blank a = false := by
            have hhead := List.head?_dropWhile_not blank text
            rw [htext] at hhead
            simpa using hhead
          simp only [ih]
          obtain ⟨word, after, hword, hafter⟩ : ∃ word after,
              (a :: rest).takeWhile (fun a => !blank a) = word ∧
              (a :: rest).dropWhile (fun a => !blank a) = after := ⟨_, _, rfl, rfl⟩
          have hall : ∀ b ∈ word, blank b = false := by
            intro b hb
            rw [← hword] at hb
            have htaken := List.mem_takeWhile_imp hb
            simpa using htaken
          have hne : word ≠ [] := by
            rw [← hword, List.takeWhile_cons_of_pos (by simp [ha])]
            exact List.cons_ne_nil _ _
          have hsplit : a :: rest = word ++ after := by
            rw [← hword, ← hafter, List.takeWhile_append_dropWhile]
          rw [hword, hafter, hsplit]
          cases after with
          | nil =>
              rw [List.append_nil, words_of_forall hne hall]
              rfl
          | cons b after =>
              have hb : blank b = true := by
                have hhead := List.head?_dropWhile_not (fun a => !blank a) (a :: rest)
                rw [hafter] at hhead
                simpa using hhead
              rw [words_append_blank hb, words_of_forall hne hall, words_cons_blank hb]
              rfl

end Words

end TextInput
