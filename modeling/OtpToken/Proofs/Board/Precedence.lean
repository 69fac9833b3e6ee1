import OtpToken.Proofs.Board.Ready

/-!
# Which jobs are served before another

Of two jobs the one that is due earlier is served first, and of jobs that are due at the
same tick the one of the driver that the board looks at first. So while somebody waits
for the only job of a driver, the jobs that precede it are served and no others
(`Runs.overtakes`). If the driver had nothing to do when the call was made, these are jobs
that were outstanding then (`Begun.overtakes`).
-/

namespace OtpToken

/-- The place of a driver in the order in which the board looks at them. -/
def Source.rank (source : Source) : Nat := Source.all.idxOf source

/-- The drivers of lower rank stand before a driver, and those of higher rank behind it. -/
theorem Source.split_rank (source : Source) :
    ∃ front back, all = front ++ source :: back ∧ (∀ other ∈ front, other.rank < source.rank) ∧
      ∀ other ∈ back, source.rank < other.rank := by
  obtain ⟨front, back, whole, _, _⟩ := source.split
  have ordered : all.Pairwise fun first second => first.rank < second.rank := by decide
  rw [whole, List.pairwise_append, List.pairwise_cons] at ordered
  exact ⟨front, back, whole, fun other member => ordered.2.2 other member _ List.mem_cons_self,
    ordered.2.1.1⟩

/-- A job is served before another one if it is due earlier, or at the same tick at a driver that
the board looks at earlier. -/
def Job.Precedes (job other : Job) : Prop :=
  job.due < other.due ∨ job.due = other.due ∧ job.task.source.rank < other.task.source.rank

instance (job other : Job) : Decidable (job.Precedes other) := instDecidableOr

/-- No job precedes itself. -/
theorem Job.not_precedes_self (job : Job) : ¬job.Precedes job := by
  simp [Job.Precedes]

namespace JobTaken

variable {job : Job} {jobs rest : List Job}

/-- The jobs are the one that is taken and the rest. -/
theorem perm (taken : JobTaken job jobs rest) : jobs.Perm (job :: rest) := by
  obtain ⟨before, behind, rfl, rfl, _⟩ := taken
  exact List.perm_middle

/-- Taking a job that is not of a kind leaves the jobs of that kind in their order. -/
theorem filter_eq (taken : JobTaken job jobs rest) {kind : Job → Bool}
    (other : kind job = false) : rest.filter kind = jobs.filter kind := by
  obtain ⟨before, behind, rfl, rfl, _⟩ := taken
  simp [List.filter_append, other]

/-- The first of some jobs is served unless another one is due strictly earlier. -/
theorem cases_head {first : Job} (taken : JobTaken job (first :: jobs) rest) :
    job = first ∧ rest = jobs ∧ (∀ other ∈ jobs, first.due ≤ other.due) ∨
      job.due < first.due ∧ ∃ left, rest = first :: left ∧ JobTaken job jobs left := by
  obtain ⟨before, behind, whole, rfl, early, late⟩ := taken
  cases before with
  | nil =>
    cases whole
    exact .inl ⟨rfl, rfl, late⟩
  | cons other before =>
    cases whole
    exact .inr ⟨early first List.mem_cons_self, _, rfl, before, behind, rfl, rfl,
      fun other member => early other (List.mem_cons_of_mem _ member), late⟩

/-- The first job is served if none is due earlier. -/
theorem eq_head {first : Job} (taken : JobTaken job (first :: jobs) rest)
    (least : ∀ other ∈ jobs, first.due ≤ other.due) : job = first ∧ rest = jobs := by
  rcases taken.cases_head with ⟨same, left, _⟩ | ⟨earlier, left, _, inside⟩
  · exact ⟨same, left⟩
  · exact absurd earlier (Nat.not_lt_of_le (least job inside.mem))

end JobTaken

namespace Board

variable {board begun mid after : Board} {job first : Job} {jobs rest : List Job}

/-- The only job of a driver stands between the jobs of the drivers before it and behind it. -/
theorem split_of_only (only : board.jobsOf job.task.source = [job]) :
    ∃ front back, board.jobs = front ++ job :: back ∧
      (∀ other ∈ front, other.task.source.rank < job.task.source.rank) ∧
      ∀ other ∈ back, job.task.source.rank < other.task.source.rank := by
  obtain ⟨front, back, whole, low, high⟩ := job.task.source.split_rank
  refine ⟨front.flatMap board.jobsOf, back.flatMap board.jobsOf, ?_, ?_, ?_⟩
  · rw [jobs, whole, List.flatMap_append, List.flatMap_cons, only]
    rfl
  · intro other member
    obtain ⟨source, among, own⟩ := List.mem_flatMap.mp member
    rw [source_of_mem_jobsOf own]
    exact low source among
  · intro other member
    obtain ⟨source, among, own⟩ := List.mem_flatMap.mp member
    rw [source_of_mem_jobsOf own]
    exact high source among

/-- What is served while the only job of a driver is outstanding precedes it. -/
theorem precedes_of_taken (only : board.jobsOf job.task.source = [job])
    (taken : JobTaken first board.jobs rest) (apart : first ≠ job) : first.Precedes job := by
  obtain ⟨front, back, whole, low, high⟩ := split_of_only only
  obtain ⟨before, behind, split, _, later, noEarlier⟩ := taken
  have inside : front ++ job :: back = before ++ first :: behind := whole.symm.trans split
  rcases List.append_eq_append_iff.mp inside with ⟨gap, rfl, same⟩ | ⟨gap, rfl, same⟩
  · -- The job stands before the one that is served, so it is due strictly later.
    cases gap with
    | nil => exact absurd (List.cons.inj same).1.symm apart
    | cons head gap =>
      obtain ⟨rfl, -⟩ := List.cons.inj same
      exact .inl (later job (List.mem_append_right _ List.mem_cons_self))
  · -- The job stands behind it, and so does its driver.
    cases gap with
    | nil => exact absurd (List.cons.inj same).1 apart
    | cons head gap =>
      obtain ⟨rfl, rest⟩ := List.cons.inj same
      have ranked := low first (List.mem_append_right _ List.mem_cons_self)
      have early : first.due ≤ job.due := noEarlier job (by rw [rest]; simp)
      rcases Nat.lt_or_eq_of_le early with earlier | sameTick
      · exact .inl earlier
      · exact .inr ⟨sameTick, ranked⟩

/-- What is left when the only job of a driver has been served does not precede it. -/
theorem not_precedes_of_taken (only : board.jobsOf job.task.source = [job])
    (taken : JobTaken job board.jobs rest) {other : Job} (member : other ∈ rest) :
    ¬other.Precedes job := by
  obtain ⟨front, back, whole, low, high⟩ := split_of_only only
  obtain ⟨before, behind, split, rfl, later, noEarlier⟩ := taken
  rw [whole, List.append_cons_inj_of_notMem
    (fun inside => absurd (low job inside) (Nat.lt_irrefl _))
    (fun inside => absurd (high job inside) (Nat.lt_irrefl _))] at split
  obtain ⟨rfl, -, rfl⟩ := split
  rintro (earlier | ⟨sameTick, ranked⟩)
  · rcases List.mem_append.mp member with inside | inside
    · exact absurd (later other inside) (Nat.lt_asymm earlier)
    · exact absurd (noEarlier other inside) (Nat.not_le_of_lt earlier)
  · rcases List.mem_append.mp member with inside | inside
    · exact absurd (later other inside) (Nat.not_lt_of_le (Nat.le_of_eq sameTick))
    · exact absurd (high other inside) (Nat.lt_asymm ranked)

namespace Runs

/-- The jobs of a board are those that are served and those that are left. -/
theorem perm (runs : Runs board jobs after) : board.jobs.Perm (jobs ++ after.jobs) := by
  induction runs with
  | nil => exact .refl _
  | cons _ taken _ _ ih => exact taken.perm.trans (ih.cons _)

/-- Jobs of a kind of which none is served stay, in their order. -/
theorem filter_eq (runs : Runs board jobs after) {kind : Job → Bool}
    (others : ∀ job ∈ jobs, kind job = false) : after.jobs.filter kind = board.jobs.filter kind := by
  induction runs with
  | nil => rfl
  | cons _ taken _ _ ih =>
    rw [ih fun job member => others job (List.mem_cons_of_mem _ member)]
    exact taken.filter_eq (others _ List.mem_cons_self)

/-- Until the first of the jobs is served, it stays the first, and what is served is due strictly
earlier. -/
theorem of_head (runs : Runs board jobs after) (head : board.jobs = first :: rest)
    (absent : first ∉ jobs) :
    (∀ other ∈ jobs, other.due < first.due) ∧ ∃ left, after.jobs = first :: left := by
  induction runs generalizing rest with
  | nil => exact ⟨nofun, rest, head⟩
  | cons _ taken _ _ ih =>
    rw [List.mem_cons, not_or] at absent
    rw [head] at taken
    rcases taken.cases_head with ⟨same, _⟩ | ⟨earlier, left, leads, _⟩
    · exact absurd same.symm absent.1
    · obtain ⟨early, stays⟩ := ih leads absent.2
      exact ⟨List.forall_mem_cons.mpr ⟨earlier, early⟩, stays⟩

/-- A driver keeps its only job until that is served. -/
theorem only (runs : Runs board jobs after) (alone : board.jobsOf job.task.source = [job])
    (absent : job ∉ jobs) : after.jobsOf job.task.source = [job] :=
  ((runs.sameAt_of_only alone absent).jobsOf).trans alone

/-- What is served before the only job of a driver precedes it. -/
theorem precedes (runs : Runs board jobs after) (alone : board.jobsOf job.task.source = [job])
    (absent : job ∉ jobs) : ∀ other ∈ jobs, other.Precedes job := by
  induction runs with
  | nil => simp
  | cons serves taken sound _ ih =>
    rw [List.mem_cons, not_or] at absent
    intro other member
    rcases List.mem_cons.mp member with rfl | member
    · exact precedes_of_taken alone taken fun same => absent.1 same.symm
    · have first : Runs _ [_] _ := .cons serves taken sound .nil
      exact ih (first.only alone (by simpa using absent.1)) absent.2 other member

/-- Before the only job of a driver exactly those are served that precede it. -/
theorem overtakes (runs : Runs board jobs mid) (alone : board.jobsOf job.task.source = [job])
    (absent : job ∉ jobs) (taken : JobTaken job mid.jobs after.jobs) :
    jobs.Perm (board.jobs.filter fun other => other.Precedes job) ∧
      ∀ other ∈ after.jobs, ¬other.Precedes job := by
  have left : ∀ other ∈ after.jobs, ¬other.Precedes job := fun _ =>
    not_precedes_of_taken (runs.only alone absent) taken
  refine ⟨?_, left⟩
  have whole := runs.perm.trans (taken.perm.append_left jobs)
  have served : jobs.filter (fun other => other.Precedes job) = jobs :=
    List.filter_eq_self.mpr fun other member => by
      simpa using runs.precedes alone absent other member
  have none : (job :: after.jobs).filter (fun other => other.Precedes job) = [] := by
    refine List.filter_eq_nil_iff.mpr fun other member => ?_
    rcases List.mem_cons.mp member with rfl | member
    · simpa using Job.not_precedes_self other
    · simpa using left other member
  have parts := whole.filter fun other => other.Precedes job
  rw [List.filter_append, served, none, List.append_nil] at parts
  exact parts.symm

end Runs

/-- Of a kind that its own job is not of, a driver that had nothing to do has no job once it has
been told of that job. -/
theorem Begun.filter_jobs {kind : Job → Bool} (begins : board.Begun begun job)
    (idle : board.jobsOf job.task.source = []) (apart : kind job = false) :
    begun.jobs.filter kind = board.jobs.filter kind := by
  simp only [Board.jobs, List.filter_flatMap]
  refine List.flatMap_congr fun source _ => ?_
  by_cases own : source = job.task.source
  · rw [own, begins.only, idle, List.filter_cons_of_neg (by simp [apart]), List.filter_nil]
  · rw [(begins.others source own).jobsOf]

/-- Of the jobs that were outstanding when an idle driver was told of a job, those that precede it
are served before it, and the others are left in their order. -/
theorem Begun.overtakes (begins : board.Begun begun job)
    (idle : board.jobsOf job.task.source = []) (runs : Runs begun jobs mid) (absent : job ∉ jobs)
    (taken : JobTaken job mid.jobs after.jobs) (drained : after.jobsOf job.task.source = []) :
    jobs.Perm (board.jobs.filter fun other => other.Precedes job) ∧
      after.jobs = board.jobs.filter fun other => ¬other.Precedes job := by
  obtain ⟨order, left⟩ := runs.overtakes begins.only absent taken
  have precedes := runs.precedes begins.only absent
  -- The job itself is neither outstanding before nor left after.
  let kind (other : Job) : Bool := other ≠ job ∧ ¬other.Precedes job
  have notOwn : ∀ {here : Board}, here.jobsOf job.task.source = [] →
      ∀ other ∈ here.jobs, other ≠ job := by
    rintro here none other member rfl
    have own := mem_jobsOf_source member
    rw [none] at own
    cases own
  refine ⟨order.trans (.of_eq (begins.filter_jobs idle (by simp [Job.not_precedes_self]))), ?_⟩
  calc after.jobs = after.jobs.filter kind := by
        refine (List.filter_eq_self.mpr fun other member => ?_).symm
        simpa [kind] using ⟨notOwn drained other member, left other member⟩
    _ = mid.jobs.filter kind := taken.filter_eq (by simp [kind])
    _ = begun.jobs.filter kind :=
        runs.filter_eq fun other member => by simp [kind, precedes other member]
    _ = board.jobs.filter kind := begins.filter_jobs idle (by simp [kind])
    _ = board.jobs.filter fun other => ¬other.Precedes job :=
        List.filter_congr fun other member => by simp [kind, notOwn idle other member]

end Board

end OtpToken
