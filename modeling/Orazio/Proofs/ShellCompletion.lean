import Orazio.Lib.CommonPrefix
import Orazio.Model.ShellProgram

/-!
# Completion in the shell

The words that `completeLine` offers are the names that begin with what was typed, behind their longest
common prefix.
-/

namespace Orazio.Proofs

open Stdio CommonPrefix

lemma commonSubstring_eq (dest src : Text) : commonSubstring dest src = meet dest src := by
  fun_induction commonSubstring dest src with
  | case1 c dest src ih => rw [meet, if_pos rfl, ih]
  | case2 c dest d src h => rw [meet, if_neg h]
  | case3 dest src h =>
    rw [meet]
    exact h

/-- The names that begin with a word. -/
def matchesOf (names : List Text) (word : Text) : List Text :=
  names.filter fun name => decide (word <+: name)

/-- The longest common prefix of the matches so far. -/
def commonOf : List Text → Option Text
  | [] => none
  | name :: rest => some (rest.foldl meet name)

/-- The comparison of `strncmp` with as many characters as the word has. -/
lemma take_eq_take_iff {line name : Text} {n : Nat} (hn : n ≤ line.length) :
    line.take n = name.take n ↔ line.take n <+: name := by
  have hlen : (line.take n).length = n := List.length_take_of_le hn
  rw [List.prefix_iff_eq_take, hlen]

lemma commonOf_concat (l : List Text) (name : Text) :
    commonOf (l ++ [name]) = some ((commonOf l).elim name fun common => commonSubstring common name) := by
  cases l with
  | nil => rfl
  | cons first rest =>
    simp only [List.cons_append, commonOf, Option.elim_some, commonSubstring_eq, List.foldl_append,
      List.foldl_cons, List.foldl_nil]

/-- The loop of the completion, by induction on the names. -/
lemma foldl_completeName {line : Text} {n : Nat} (hn : n ≤ line.length) (names before : List Text) :
    names.foldl (completeName line n) (commonOf before, before) =
      (commonOf (before ++ matchesOf names (line.take n)), before ++ matchesOf names (line.take n)) := by
  induction names generalizing before with
  | nil => simp only [List.foldl_nil, matchesOf, List.filter_nil, List.append_nil]
  | cons name names ih =>
    rw [List.foldl_cons, completeName]
    by_cases h : line.take n <+: name
    · have hmatch : matchesOf (name :: names) (line.take n) = name :: matchesOf names (line.take n) :=
        List.filter_cons_of_pos (decide_eq_true h)
      rw [if_pos ((take_eq_take_iff hn).mpr h), ← commonOf_concat, ih (before ++ [name]), hmatch,
        List.append_assoc, List.singleton_append]
    · have hmatch : matchesOf (name :: names) (line.take n) = matchesOf names (line.take n) :=
        List.filter_cons_of_neg (by simpa using h)
      rw [if_neg fun heq => h ((take_eq_take_iff hn).mp heq), ih before, hmatch]

lemma completeFrom_eq {names : List Text} {line : Text} {n : Nat} (hn : n ≤ line.length) :
    completeFrom names line n =
      (commonOf (matchesOf names (line.take n))).map fun common => common :: matchesOf names (line.take n) := by
  have hloop : names.foldl (completeName line n) (none, []) = _ := foldl_completeName hn names []
  rw [List.nil_append] at hloop
  simp only [completeFrom, hloop]

/-- The prefixes of the longest common prefix of the matches are their common prefixes. -/
lemma prefix_commonOf_iff {found : List Text} {common : Text} (h : commonOf found = some common) (l : Text) :
    l <+: common ↔ ∀ name ∈ found, l <+: name := by
  cases found with
  | nil => cases h
  | cons first rest =>
    cases h
    rw [prefix_foldl_meet_iff, List.forall_mem_cons]

/-- A longer word that all matches begin with has the same matches. -/
lemma matchesOf_extend {names : List Text} {word longer : Text} (h : word <+: longer)
    (hall : ∀ name ∈ matchesOf names word, longer <+: name) : matchesOf names longer = matchesOf names word := by
  apply List.filter_congr
  intro name hname
  rw [decide_eq_decide]
  refine ⟨h.trans, fun hword => hall name ?_⟩
  exact List.mem_filter.mpr ⟨hname, decide_eq_true hword⟩

/-- The names that a word at some place of a line is compared with. -/
def namesAt (start : Nat) : List Text :=
  if start = 0 then commands.map fun c => c.name.toList else variableEntries.map fun v => v.name.toList

lemma completeLine_eq (line : Text) (start stop : Nat) :
    completeLine line start stop = completeFrom (namesAt start) line (stop - start) := by
  rw [completeLine, namesAt]
  split
  · rfl
  · rfl

/-- For every word of a line: nothing is offered if no name begins with it. Otherwise all names that do are
offered, in the order of the table, behind their longest common prefix; and if this prefix replaces the
word, the same is offered again. -/
theorem completeLine_offers_matches {line : Text} {start stop : Nat} (hword : stop - start ≤ line.length) :
    (completeLine line start stop = none ↔ ∀ name ∈ namesAt start, ¬line.take (stop - start) <+: name) ∧
      ∀ offered, completeLine line start stop = some offered →
        ∃ common, offered = common :: matchesOf (namesAt start) (line.take (stop - start)) ∧
          line.take (stop - start) <+: common ∧
          (∀ l, l <+: common ↔ ∀ name ∈ matchesOf (namesAt start) (line.take (stop - start)), l <+: name) ∧
          completeLine common start (start + common.length) = some offered := by
  rw [completeLine_eq, completeFrom_eq hword]
  generalize line.take (stop - start) = word
  constructor
  · rw [Option.map_eq_none_iff]
    cases hfound : matchesOf (namesAt start) word with
    | nil =>
      refine iff_of_true rfl fun name hname hprefix => ?_
      have hmem : name ∈ matchesOf (namesAt start) word := List.mem_filter.mpr ⟨hname, decide_eq_true hprefix⟩
      rw [hfound] at hmem
      exact List.not_mem_nil hmem
    | cons first rest =>
      have hmem : first ∈ matchesOf (namesAt start) word := hfound ▸ List.mem_cons_self
      obtain ⟨hname, hprefix⟩ := List.mem_filter.mp hmem
      exact iff_of_false (Option.some_ne_none _) fun hall => hall first hname (of_decide_eq_true hprefix)
  · intro offered hoffered
    obtain ⟨common, hcommon, rfl⟩ := Option.map_eq_some_iff.mp hoffered
    have hprefixes := prefix_commonOf_iff hcommon
    have hlonger : word <+: common :=
      (hprefixes word).mpr fun name hname => of_decide_eq_true (List.mem_filter.mp hname).2
    have hsame := matchesOf_extend hlonger ((hprefixes common).mp (List.prefix_refl common))
    refine ⟨common, rfl, hlonger, hprefixes, ?_⟩
    have hlen : start + common.length - start = common.length := Nat.add_sub_cancel_left _ _
    rw [completeLine_eq, hlen, completeFrom_eq (Nat.le_refl _), List.take_length, hsame, hcommon]
    rfl

theorem completeLine_offers_matches_odom :
    ∃ common, common :: matchesOf (namesAt 6) "drive_status.o".toList =
        ["drive_status.odom_".toList, "drive_status.odom_x".toList, "drive_status.odom_y".toList,
          "drive_status.odom_theta".toList] ∧
      completeLine common 6 (6 + common.length) = completeLine "drive_status.o".toList 6 20 := by
  have hoffered : completeLine "drive_status.o".toList 6 20 =
      some ["drive_status.odom_".toList, "drive_status.odom_x".toList, "drive_status.odom_y".toList,
        "drive_status.odom_theta".toList] := by
    rw [completeLine, if_neg (by decide), completeVar]
    simp only [variableEntries, systemStatusEntries, systemParamEntries, jointStatusEntries, jointParamEntries,
      driveStatusEntries, driveParamEntries, controlEntries, packetEntry, List.cons_append, List.nil_append,
      List.map_cons, List.map_nil]
    -- A literal is `String.ofList` of its characters.
    repeat rw [String.toList_ofList]
    decide +kernel
  obtain ⟨common, heq, -, -, hagain⟩ :=
    (@completeLine_offers_matches "drive_status.o".toList 6 20 (by decide)).2 _ hoffered
  exact ⟨common, heq.symm, hagain.trans hoffered.symm⟩

end Orazio.Proofs
