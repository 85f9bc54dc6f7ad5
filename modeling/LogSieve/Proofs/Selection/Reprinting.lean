import LogSieve.Proofs.Invocation.Work
import LogSieve.Proofs.Selection.Cascade

/-!
# Selecting from what was printed

What a run prints is a log again, and the next run may read it.  This chain is not the chain of joined
texts: it goes through octets, and each run puts a line feed after its text.  After some lines the line
feed only ends the last of them.  After no lines it is an empty line of its own, which no tag selects.

* `Sink.Willing` — a sink that never fails.
* `Pass`, `Pass.run` — a run from what a file holds to what a sink has received; `Pass.chain` — runs
  one after the other, each reading what the one before has printed.
* `filter_split_printed` — the lines of a printed text, the empty one left out.
* `Pass.chain_eq_map` — what each run of a chain prints.
* **`Pass.chain_prints_conjunction`** — this, and what follows from it: a tag that was asked for before
  changes nothing, the order of the tags does not matter, and nothing stays nothing.
-/

namespace LogSieve

open Line

/-- A sink that never fails.  It may take few octets at a time and be interrupted. -/
structure Sink.Willing (sink : Sink) : Prop where
  empty : sink.received = #[]
  chunk : sink.chunk ≠ some 0
  limit : sink.limit = none
  limitFault : sink.limitFault = none
  flushFault : sink.flushFault = none

/-- A run from a file to a sink. -/
structure Pass where
  path : Octets
  tag : Tag
  sink : Sink

/-- The octets that a text is printed as, its lines given. -/
def printed (lines : List Line) : Octets :=
  Text.encode (join lines ++ ['\n'])

namespace Pass

/-- What the sink has received after the run, given what the file holds. -/
def run (pass : Pass) (held : Octets) : Except Failure Octets :=
  let source : Source := fun path => Log.receive path (.ok held)
  match (source.selectJoined pass.path pass.tag).outcome with
  | .error failure => .error failure
  | .ok text =>
    match pass.sink.print text with
    | (_, .error failure) => .error failure
    | (after, .ok ()) => .ok after.received.toList

/-- Runs one after the other.  The first finds some octets in its file, and each later one what the
run before has printed.  A run that fails is the last. -/
def chain : Octets → List Pass → List (Except Failure Octets)
  | _, [] => []
  | held, pass :: passes =>
    match pass.run held with
    | .error failure => [.error failure]
    | .ok octets => .ok octets :: chain octets passes

end Pass

variable {lines : List Line} {tags : List Tag} {pass : Pass} {passes : List Pass}

/-! ## One run -/

lemma Sink.Willing.print_eq {sink : Sink} (h : sink.Willing) (text : Text) :
    ∃ after, sink.print text = (after, .ok ()) ∧
      after.received.toList = Text.encode (text ++ ['\n']) := by
  have hpatient : sink.Patient := ⟨h.chunk, by simp [h.limitFault]⟩
  have hroom : sink.room = none := by simp [Sink.room, h.limit]
  have hfits : sink.fits (Text.encode (text ++ ['\n'])) = true := by simp [Sink.fits, hroom]
  have hprint := Sink.print_of_fits hpatient hfits
  rw [h.flushFault] at hprint
  exact ⟨_, hprint, by simp [Sink.flush, Sink.filled, hroom, Sink.takeWithin, h.empty]⟩

/-- A run on a text prints the selected lines, whatever the sink does on the way. -/
theorem Pass.run_encode (h : pass.sink.Willing) (content : Text) :
    pass.run (Text.encode content) = .ok (printed (select pass.tag content)) := by
  have hsource : Log.receive pass.path (.ok (Text.encode content)) =
      ⟨Log.events pass.path (Text.encode content), .ok ⟨pass.path, content⟩⟩ := by
    rw [Log.receive, ofOctets_eq_ok rfl]
  have hselect := @Source.selectJoined_of_ok
    (fun path => Log.receive path (.ok (Text.encode content))) pass.path _ _ hsource pass.tag
  obtain ⟨after, hprint, hreceived⟩ := h.print_eq (join (select pass.tag content))
  simp only [run, hselect, hprint, hreceived, printed]

/-! ## Reading what was printed -/

/-- A printed text falls into its lines again.  Without any lines it is one that is empty, which
nothing that passes over empty lines can see. -/
lemma filter_split_printed (h : Readable lines) {wanted : Line → Bool} (hempty : wanted [] = false) :
    (split (join lines ++ ['\n'])).filter wanted = lines.filter wanted := by
  by_cases hlines : lines = []
  · have hfeed : split (join [] ++ ['\n']) = [[]] := by decide
    rw [hlines, hfeed, List.filter_cons, hempty]
    rfl
  · have hclose := split_close_append h.plain []
    rw [List.append_nil, split_nil, List.append_nil] at hclose
    rw [← close_eq_join_append hlines, hclose]

/-- All tags but the first, asked of what the first run prints, are all tags asked of the text that
the first run reads. -/
lemma selectAll_reprinted (hne : tags ≠ []) (tag : Tag) (content : Text) :
    selectAll tags (join (select tag content) ++ ['\n']) = selectAll (tag :: tags) content := by
  have hempty : (tags.all fun other => other.marks []) = false := by
    obtain ⟨first, rest, rfl⟩ := List.exists_cons_of_ne_nil hne
    simp
  rw [selectAll, filter_split_printed (readable_select tag content) hempty, select,
    List.filter_filter, selectAll]
  simp only [List.all_cons, Bool.and_comm]

/-! ## Runs one after the other -/

namespace Pass

variable {others : List Pass}

theorem chain_eq_map (hpasses : ∀ pass ∈ passes, pass.sink.Willing) (content : Text) :
    chain (Text.encode content) passes =
      (List.range passes.length).map fun k =>
        .ok (printed (selectAll ((passes.map Pass.tag).take (k + 1)) content)) := by
  induction passes generalizing content with
  | nil => rfl
  | cons pass passes ih =>
      obtain ⟨hpass, hrest⟩ := List.forall_mem_cons.1 hpasses
      have hlater : chain (printed (select pass.tag content)) passes =
          (List.range passes.length).map fun k =>
            .ok (printed (selectAll (((pass :: passes).map Pass.tag).take (k + 1 + 1)) content)) := by
        rw [printed, ih hrest]
        refine List.map_congr_left fun k hk => ?_
        have hne : (passes.map Pass.tag).take (k + 1) ≠ [] := by
          have hlength := List.mem_range.1 hk
          simp [← List.length_pos_iff]
          omega
        rw [selectAll_reprinted hne]
        rfl
      rw [chain, run_encode hpass, List.length_cons, List.range_succ_eq_map, List.map_cons,
        List.map_map]
      simp only [hlater]
      rw [← selectAll_singleton]
      rfl

lemma getElem?_chain (hpasses : ∀ pass ∈ passes, pass.sink.Willing) (content : Text) {k : Nat}
    (hk : k < passes.length) :
    (chain (Text.encode content) passes)[k]? =
      some (.ok (printed (selectAll ((passes.map Pass.tag).take (k + 1)) content))) := by
  rw [chain_eq_map hpasses, List.getElem?_map, List.getElem?_range hk]
  rfl

lemma getLast?_chain (hpasses : ∀ pass ∈ passes, pass.sink.Willing) (hne : passes ≠ [])
    (content : Text) :
    (chain (Text.encode content) passes).getLast? =
      some (.ok (printed (selectAll (passes.map Pass.tag) content))) := by
  have hpos : 0 < passes.length := List.length_pos_iff.2 hne
  have hlength : (chain (Text.encode content) passes).length = passes.length := by
    rw [chain_eq_map hpasses, List.length_map, List.length_range]
  have hall : (passes.map Pass.tag).take (passes.length - 1 + 1) = passes.map Pass.tag := by
    rw [Nat.sub_add_cancel hpos]
    exact List.take_of_length_le (by simp)
  rw [List.getLast?_eq_getElem?, hlength, getElem?_chain hpasses content (by omega), hall]

/-- Chains that ask for the same tags print the same in the end. -/
lemma getLast?_chain_congr (hpasses : ∀ pass ∈ passes, pass.sink.Willing)
    (hothers : ∀ pass ∈ others, pass.sink.Willing)
    (h : ∀ tag, tag ∈ others.map Pass.tag ↔ tag ∈ passes.map Pass.tag) (content : Text) :
    (chain (Text.encode content) others).getLast? =
      (chain (Text.encode content) passes).getLast? := by
  have hnil : others.map Pass.tag = [] ↔ passes.map Pass.tag = [] := by
    simp only [List.eq_nil_iff_forall_not_mem, h]
  rw [List.map_eq_nil_iff, List.map_eq_nil_iff] at hnil
  by_cases hne : passes = []
  · rw [hne, hnil.2 hne]
  · have hne' : others ≠ [] := fun hothers => hne (hnil.1 hothers)
    rw [getLast?_chain hpasses hne, getLast?_chain hothers hne', selectAll_congr h]

end Pass

/-! ## Nothing -/

/-- Only no lines at all are printed as a line feed alone, if empty lines are left out. -/
lemma printed_eq_lineFeed_iff (h : ∀ line ∈ lines, line ≠ []) :
    printed lines = [0x0A] ↔ lines = [] := by
  have hfeed : ([0x0A] : Octets) = Text.encode ['\n'] := rfl
  rw [hfeed, printed, Utf8.encode_injective.eq_iff, List.append_left_eq_self]
  constructor
  · intro hjoin
    rcases lines with _ | ⟨first, _ | ⟨second, lines⟩⟩
    · rfl
    · rw [join_singleton] at hjoin
      exact absurd hjoin (h first List.mem_cons_self)
    · rw [join_cons_cons] at hjoin
      exact absurd hjoin (by simp)
  · rintro rfl
    rfl

lemma ne_nil_of_mem_selectAll {content : Text} (hne : tags ≠ []) :
    ∀ line ∈ selectAll tags content, line ≠ [] := by
  rintro _ hmem rfl
  obtain ⟨tag, hmemTag⟩ := List.exists_mem_of_ne_nil tags hne
  have hmarks := List.all_eq_true.1 (List.mem_filter.1 hmem).2 tag hmemTag
  simp at hmarks

/-- What no line bears the markers of, no line bears with more markers. -/
lemma selectAll_eq_nil_of_subset {more : List Tag} {content : Text} (hsub : tags ⊆ more)
    (h : selectAll tags content = []) : selectAll more content = [] := by
  rw [selectAll, List.filter_eq_nil_iff] at h ⊢
  intro line hline hall
  refine h line hline (List.all_eq_true.2 fun tag htag => ?_)
  exact List.all_eq_true.1 hall tag (hsub htag)

namespace Pass

/-- A run that prints a line feed alone is followed by runs that do. -/
lemma chain_of_lineFeed (hpasses : ∀ pass ∈ passes, pass.sink.Willing) (content : Text) {k m : Nat}
    (hkm : k ≤ m) (hm : m < passes.length)
    (h : (chain (Text.encode content) passes)[k]? = some (.ok [0x0A])) :
    (chain (Text.encode content) passes)[m]? = some (.ok [0x0A]) := by
  have hsome : ∀ n < passes.length, (passes.map Pass.tag).take (n + 1) ≠ [] := by
    intro n hn
    simp [← List.length_pos_iff]
    omega
  have hk : k < passes.length := by omega
  rw [getElem?_chain hpasses content hk, Option.some.injEq, Except.ok.injEq,
    printed_eq_lineFeed_iff (ne_nil_of_mem_selectAll (hsome k hk))] at h
  rw [getElem?_chain hpasses content hm, Option.some.injEq, Except.ok.injEq,
    printed_eq_lineFeed_iff (ne_nil_of_mem_selectAll (hsome m hm))]
  exact selectAll_eq_nil_of_subset (List.take_subset_take_left _ (by omega)) h

/-! ## Together -/

/-- **A chain of printing runs asks for all of its tags.**  Every run succeeds, and run `k` prints the
lines of the first text that bear the markers of the first `k` tags, joined, and a line feed.  Chains
with the same tags, in whatever order, print the same in the end; so a further run with a tag that was
asked for before prints what it reads.  And once a line feed is all that is printed, it remains so. -/
theorem chain_prints_conjunction {passes : List Pass}
    (hpasses : ∀ pass ∈ passes, pass.sink.Willing) (content : Text) :
    chain (Text.encode content) passes =
        (List.range passes.length).map (fun k =>
          .ok (printed (selectAll ((passes.map Pass.tag).take (k + 1)) content))) ∧
      (∀ others : List Pass, (∀ pass ∈ others, pass.sink.Willing) →
        (∀ tag, tag ∈ others.map Pass.tag ↔ tag ∈ passes.map Pass.tag) →
          (chain (Text.encode content) others).getLast? =
            (chain (Text.encode content) passes).getLast?) ∧
      (∀ again : Pass, again.sink.Willing → again.tag ∈ passes.map Pass.tag →
        (chain (Text.encode content) (passes ++ [again])).getLast? =
          (chain (Text.encode content) passes).getLast?) ∧
      (∀ k m, k ≤ m → m < passes.length →
        (chain (Text.encode content) passes)[k]? = some (.ok [0x0A]) →
          (chain (Text.encode content) passes)[m]? = some (.ok [0x0A])) := by
  refine ⟨chain_eq_map hpasses content, fun others hothers h => ?_, fun again hagain htag => ?_,
    fun k m hkm hm h => chain_of_lineFeed hpasses content hkm hm h⟩
  · exact getLast?_chain_congr hpasses hothers h content
  · have hall : ∀ pass ∈ passes ++ [again], pass.sink.Willing := by
      simpa [or_imp, forall_and] using And.intro hpasses hagain
    refine getLast?_chain_congr hpasses hall (fun tag => ?_) content
    rw [List.map_append, List.mem_append, List.map_singleton, List.mem_singleton]
    exact or_iff_left_of_imp fun h => h ▸ htag

/-- Two tags of which one contains the marker of the other, then one that no line bears; one sink
takes its octets one by one after two interruptions.  In another order the end is the same. -/
theorem chain_prints_conjunction_to_nothing :
    let content := "[a] [b] 1\r\n[a] 2\u2028-".toList
    let slow : Sink := { chunk := some 1, interrupts := 2 }
    let passes : List Pass :=
      [⟨[0x6C], ⟨"a".toList⟩, slow⟩, ⟨[], ⟨"a] [b".toList⟩, {}⟩, ⟨[0x6C], ⟨['\n']⟩, {}⟩]
    let others : List Pass :=
      [⟨[], ⟨['\n']⟩, {}⟩, ⟨[], ⟨"a] [b".toList⟩, slow⟩, ⟨[], ⟨"a".toList⟩, {}⟩]
    (∀ pass ∈ passes, pass.sink.Willing) ∧ (∀ pass ∈ others, pass.sink.Willing) ∧
      chain (Text.encode content) passes =
        [.ok (Text.encode "[a] [b] 1\n[a] 2\n".toList), .ok (Text.encode "[a] [b] 1\n".toList),
          .ok [0x0A]] ∧
      (chain (Text.encode content) others).getLast? =
        (chain (Text.encode content) passes).getLast? ∧
      (chain (Text.encode content) (passes ++ [⟨[], ⟨"a".toList⟩, slow⟩])).getLast? =
        (chain (Text.encode content) passes).getLast? := by
  intro content slow passes others
  have hslow : slow.Willing := ⟨rfl, by decide, rfl, rfl, rfl⟩
  have hquick : Sink.Willing {} := ⟨rfl, by decide, rfl, rfl, rfl⟩
  have hpasses : ∀ pass ∈ passes, pass.sink.Willing := by simp [passes, hslow, hquick]
  have hothers : ∀ pass ∈ others, pass.sink.Willing := by simp [others, hslow, hquick]
  have hsame : ∀ tag, tag ∈ others.map Pass.tag ↔ tag ∈ passes.map Pass.tag := by
    intro tag
    simp only [others, passes, List.map_cons, List.map_nil, List.mem_cons, List.not_mem_nil]
    tauto
  obtain ⟨hchain, hlast, hagain, -⟩ := chain_prints_conjunction hpasses content
  refine ⟨hpasses, hothers, ?_, hlast others hothers hsame, hagain _ hslow List.mem_cons_self⟩
  rw [hchain]
  rfl

end Pass

end LogSieve
