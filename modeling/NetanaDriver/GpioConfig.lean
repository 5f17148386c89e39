import NetanaDriver.DeviceSession

/-! What the calls that write to the GPIOs of a device keep (toolkit/netana_functions.c). -/
namespace NetanaDriver

/-- A period that `netana_set_gpio_mode` accepts for a PWM. -/
def PwmPeriod (ulPeriod : BitVec 32) : Prop := ulPeriod ≤ 100000000#32 ∧ ulPeriod ≥ 10#32

/-- The words of a GPIO fit its mode. -/
structure GpioBlock.Configured (b : GpioBlock) : Prop where
  pwm : b.ulMode = gpioModeOutputPwm → PwmPeriod b.uData.ulData0 ∧ PwmPeriod b.uData.ulData1
  output : b.ulMode = gpioModeOutput → b.uData.ulData0 = 0#32 ∨ b.uData.ulData0 = 1#32

/-- The first `n` GPIOs fit their modes, and at most one of them is a PWM. -/
structure GpiosConfigured (n : ℕ) (g : ℕ → GpioBlock) : Prop where
  onePwm : ∀ i < n, ∀ j < n,
    (g i).ulMode = gpioModeOutputPwm → (g j).ulMode = gpioModeOutputPwm → i = j
  block : ∀ i < n, (g i).Configured

/-- The calls that write to the GPIOs. `szDevice` and `phDev` can be null. -/
inductive GpioCall where
  | openDevice (szDevice : Option (List Char)) (phDev : Bool) (ulFilter : BitVec 32)
  | setGpioMode (ulGpio : BitVec 32) (tMode : GpioMode)
  | setGpioOutput (ulGpio ulLevel : BitVec 32)
  | setGpioVoltage (ulGpioSelMask ulGpioVoltageSel : BitVec 32)

/-- A call, with the device as the only one on the list. -/
def gpioCall (szAliasName : List Char) (x : DeviceSession) : GpioCall → DeviceSession × BitVec 32
  | .openDevice none _ _ => (x, netanaInvalidParameter)
  | .openDevice (some szDevice) phDev ulFilter =>
    if phDev = false then (x, netanaInvalidParameter)
    else if osStrnicmpEqual szDevice szAliasName netanaMaxDevicenamesize then
      x.netanaOpenDevice ulFilter
    else (x, netanaDeviceNotFound)
  | .setGpioMode ulGpio tMode => x.netanaSetGpioMode ulGpio tMode
  | .setGpioOutput ulGpio ulLevel => x.netanaSetGpioOutput ulGpio ulLevel
  | .setGpioVoltage ulGpioSelMask ulGpioVoltageSel =>
    x.netanaSetGpioVoltage ulGpioSelMask ulGpioVoltageSel

/-- A call, or anything that leaves the GPIOs and their defaults alone: the capture state, the
count of users and the filters change as they like. -/
inductive GpioEvent where
  | call (a : GpioCall)
  | between (y : DeviceSession)

def gpioStep (szAliasName : List Char) (x : DeviceSession) : GpioEvent → DeviceSession
  | .call a => (gpioCall szAliasName x a).1
  | .between y =>
    { y with
      ulGpioCnt := x.ulGpioCnt
      atDefaultGPIOs := x.atDefaultGPIOs
      aptGPIOs := x.aptGPIOs }

/-- What holds between two calls. -/
structure GpioInv (x : DeviceSession) : Prop where
  defaults : GpiosConfigured x.ulGpioCnt.toNat x.atDefaultGPIOs
  gpios : GpiosConfigured x.ulGpioCnt.toNat x.aptGPIOs

/-- One GPIO gets new contents, a PWM only where no other one is. -/
theorem GpiosConfigured.update {n : ℕ} {g : ℕ → GpioBlock} (h : GpiosConfigured n g) {i : ℕ}
    {b : GpioBlock} (hb : b.Configured)
    (hpwm : b.ulMode = gpioModeOutputPwm →
      ∀ j < n, (g j).ulMode = gpioModeOutputPwm → j = i) :
    GpiosConfigured n (Function.update g i b) := by
  constructor
  · intro j hj k hk hjm hkm
    by_cases hji : j = i
    · by_cases hki : k = i
      · exact hji.trans hki.symm
      · rw [hji, Function.update_self] at hjm
        rw [Function.update_of_ne hki] at hkm
        exact absurd (hpwm hjm k hk hkm) hki
    · rw [Function.update_of_ne hji] at hjm
      by_cases hki : k = i
      · rw [hki, Function.update_self] at hkm
        exact absurd (hpwm hkm j hj hjm) hji
      · rw [Function.update_of_ne hki] at hkm
        exact h.onePwm j hj k hk hjm hkm
  · intro j hj
    by_cases hji : j = i
    · rw [hji, Function.update_self]
      exact hb
    · rw [Function.update_of_ne hji]
      exact h.block j hj

/-- Only modes and data count. -/
theorem GpiosConfigured.congr {n : ℕ} {g g' : ℕ → GpioBlock} (h : GpiosConfigured n g)
    (hmode : ∀ i < n, (g' i).ulMode = (g i).ulMode)
    (hdata : ∀ i < n, (g' i).uData = (g i).uData) : GpiosConfigured n g' := by
  constructor
  · intro i hi j hj him hjm
    rw [hmode i hi] at him
    rw [hmode j hj] at hjm
    exact h.onePwm i hi j hj him hjm
  · intro i hi
    have hb := h.block i hi
    constructor
    · intro hm
      rw [hmode i hi] at hm
      rw [hdata i hi]
      exact hb.pwm hm
    · intro hm
      rw [hmode i hi] at hm
      rw [hdata i hi]
      exact hb.output hm

/-- A block whose mode is neither an output nor a PWM. -/
theorem GpioBlock.configured_of_other {b : GpioBlock} (hout : b.ulMode ≠ gpioModeOutput)
    (hpwm : b.ulMode ≠ gpioModeOutputPwm) : b.Configured :=
  ⟨fun h => absurd h hpwm, fun h => absurd h hout⟩

/-- How `netana_set_gpio_mode` can end: with an error and nothing changed, or with one GPIO
changed. -/
theorem netanaSetGpioMode_cases (ulGpio : BitVec 32) (tMode : GpioMode) (x : DeviceSession) :
    ((x.netanaSetGpioMode ulGpio tMode).1 = x ∧
      (x.netanaSetGpioMode ulGpio tMode).2 ≠ netanaNoError) ∨
    ∃ b, x.netanaSetGpioMode ulGpio tMode = (x.setGpio ulGpio b, netanaNoError) ∧
      ulGpio < x.ulGpioCnt ∧ b.ulMode = tMode.ulMode ∧
      b.ulVoltage = (x.aptGPIOs ulGpio.toNat).ulVoltage ∧ b.Configured ∧
      (b.ulMode = gpioModeOutputPwm → ∀ j < x.ulGpioCnt.toNat,
        (x.aptGPIOs j).ulMode = gpioModeOutputPwm → j = ulGpio.toNat) := by
  unfold DeviceSession.netanaSetGpioMode
  by_cases hrun : x.isCaptureRunning = true
  · rw [if_pos hrun]
    exact Or.inl ⟨rfl, (by decide : netanaCaptureActive ≠ netanaNoError)⟩
  rw [if_neg hrun]
  by_cases hgpio : ulGpio < x.ulGpioCnt
  swap
  · rw [if_neg hgpio]
    exact Or.inl ⟨rfl, netanaInvalidParameter_ne⟩
  rw [if_pos hgpio]
  by_cases hedge : tMode.ulMode = gpioModeRisingEdge ∨ tMode.ulMode = gpioModeFallingEdge
  · simp only [if_pos hedge]
    have hother : tMode.ulMode ≠ gpioModeOutput ∧ tMode.ulMode ≠ gpioModeOutputPwm := by
      rcases hedge with hm | hm
      · rw [hm]
        decide
      · rw [hm]
        decide
    exact Or.inr ⟨_, rfl, hgpio, rfl, rfl, GpioBlock.configured_of_other hother.1 hother.2,
      fun h => absurd h hother.2⟩
  simp only [if_neg hedge]
  by_cases hout : tMode.ulMode = gpioModeOutput
  · have hpwm : tMode.ulMode ≠ gpioModeOutputPwm := by
      rw [hout]
      decide
    simp only [if_pos hout]
    exact Or.inr ⟨_, rfl, hgpio, rfl, rfl, ⟨fun h => absurd h hpwm, fun _ => Or.inl rfl⟩,
      fun h => absurd h hpwm⟩
  simp only [if_neg hout]
  by_cases hpwm : tMode.ulMode = gpioModeOutputPwm
  · simp only [if_pos hpwm]
    by_cases hperiod : tMode.ulData0 ≤ 100000000#32 ∧ tMode.ulData0 ≥ 10#32 ∧
        tMode.ulData1 ≤ 100000000#32 ∧ tMode.ulData1 ≥ 10#32
    swap
    · simp only [if_neg hperiod]
      exact Or.inl ⟨trivial, netanaInvalidParameter_ne⟩
    simp only [if_pos hperiod]
    by_cases hactive : ((List.range x.ulGpioCnt.toNat).any fun ulGPIOCnt =>
        (x.aptGPIOs ulGPIOCnt).ulMode == tMode.ulMode && ulGpio.toNat != ulGPIOCnt) = true
    · simp only [if_pos hactive]
      exact Or.inl ⟨trivial, netanaFunctionFailed_ne⟩
    · simp only [if_neg hactive]
      obtain ⟨hhi, hhi', hlo, hlo'⟩ := hperiod
      refine Or.inr ⟨_, rfl, hgpio, rfl, rfl, ⟨fun _ => ⟨⟨hhi, hhi'⟩, hlo, hlo'⟩,
        fun h => absurd h hout⟩, fun _ j hj hm => ?_⟩
      -- the scan has found no other GPIO with this mode
      by_contra hne
      apply hactive
      rw [List.any_eq_true]
      refine ⟨j, List.mem_range.mpr hj, ?_⟩
      rw [Bool.and_eq_true, beq_iff_eq, bne_iff_ne]
      exact ⟨hm.trans hpwm.symm, fun h => hne h.symm⟩
  · simp only [if_neg hpwm]
    by_cases hsync : tMode.ulMode = gpioModeSync
    · simp only [if_pos hsync]
      exact Or.inr ⟨_, rfl, hgpio, rfl, rfl, GpioBlock.configured_of_other hout hpwm,
        fun h => absurd h hpwm⟩
    · simp only [if_neg hsync]
      exact Or.inr ⟨_, rfl, hgpio, rfl, rfl, GpioBlock.configured_of_other hout hpwm,
        fun h => absurd h hpwm⟩

/-- How `netana_set_gpio_output` can end. -/
theorem netanaSetGpioOutput_cases (ulGpio ulLevel : BitVec 32) (x : DeviceSession) :
    ((x.netanaSetGpioOutput ulGpio ulLevel).1 = x ∧
      (x.netanaSetGpioOutput ulGpio ulLevel).2 ≠ netanaNoError) ∨
    ∃ b, x.netanaSetGpioOutput ulGpio ulLevel = (x.setGpio ulGpio b, netanaNoError) ∧
      b.ulMode = gpioModeOutput ∧ b.Configured := by
  unfold DeviceSession.netanaSetGpioOutput
  by_cases hbad : ulGpio ≥ x.ulGpioCnt ∨ (ulLevel ≠ 0#32 ∧ ulLevel ≠ 1#32)
  · rw [if_pos hbad]
    exact Or.inl ⟨rfl, netanaInvalidParameter_ne⟩
  · rw [if_neg hbad]
    have hlevel : ulLevel = 0#32 ∨ ulLevel = 1#32 := by
      by_contra h
      rw [not_or] at h
      exact hbad (Or.inr h)
    by_cases hmode : (x.aptGPIOs ulGpio.toNat).ulMode = gpioModeOutput
    · simp only [if_pos hmode]
      refine Or.inr ⟨_, rfl, hmode, ⟨fun h => ?_, fun _ => hlevel⟩⟩
      exact absurd (hmode.symm.trans h) (by decide)
    · simp only [if_neg hmode]
      exact Or.inl ⟨trivial, netanaFunctionFailed_ne⟩

/-- The loop over the GPIOs of a voltage writes nothing else. -/
theorem voltageLoop_frame (ulGpioSelMask ulGpioVoltageSel : BitVec 32) (l : List ℕ)
    (g : ℕ → GpioBlock) (i : ℕ) :
    (l.foldl (fun g ulGpio =>
        if ulGpioSelMask &&& 1#32 <<< ulGpio ≠ 0#32 then
          Function.update g ulGpio { g ulGpio with ulVoltage := ulGpioVoltageSel }
        else g) g i).ulMode = (g i).ulMode ∧
      (l.foldl (fun g ulGpio =>
        if ulGpioSelMask &&& 1#32 <<< ulGpio ≠ 0#32 then
          Function.update g ulGpio { g ulGpio with ulVoltage := ulGpioVoltageSel }
        else g) g i).uData = (g i).uData := by
  induction l generalizing g with
  | nil => exact ⟨rfl, rfl⟩
  | cons ulGpio l ih =>
    simp only [List.foldl_cons]
    by_cases hsel : ulGpioSelMask &&& 1#32 <<< ulGpio ≠ 0#32
    · rw [if_pos hsel]
      obtain ⟨hmode, hdata⟩ :=
        ih (Function.update g ulGpio { g ulGpio with ulVoltage := ulGpioVoltageSel })
      have hone : (Function.update g ulGpio
            { g ulGpio with ulVoltage := ulGpioVoltageSel } i).ulMode = (g i).ulMode ∧
          (Function.update g ulGpio
            { g ulGpio with ulVoltage := ulGpioVoltageSel } i).uData = (g i).uData := by
        by_cases hi : i = ulGpio
        · rw [hi, Function.update_self]
          exact ⟨rfl, rfl⟩
        · rw [Function.update_of_ne hi]
          exact ⟨rfl, rfl⟩
      exact ⟨hmode.trans hone.1, hdata.trans hone.2⟩
    · rw [if_neg hsel]
      exact ih g

/-- How `netana_set_gpio_voltage` can end: the loop writes nothing but voltages. -/
theorem netanaSetGpioVoltage_cases (ulGpioSelMask ulGpioVoltageSel : BitVec 32)
    (x : DeviceSession) :
    ((x.netanaSetGpioVoltage ulGpioSelMask ulGpioVoltageSel).1 = x ∧
      (x.netanaSetGpioVoltage ulGpioSelMask ulGpioVoltageSel).2 ≠ netanaNoError) ∨
    ∃ g, x.netanaSetGpioVoltage ulGpioSelMask ulGpioVoltageSel =
        ({ x with aptGPIOs := g }, netanaNoError) ∧
      ∀ i, (g i).ulMode = (x.aptGPIOs i).ulMode ∧ (g i).uData = (x.aptGPIOs i).uData := by
  unfold DeviceSession.netanaSetGpioVoltage
  simp only
  generalize hsupported : (if ulGpioVoltageSel = gpioVoltage3V then
      x.ulGpioVoltage3VSupport &&& ulGpioSelMask == ulGpioSelMask
    else if ulGpioVoltageSel = gpioVoltage24V then
      x.ulGpioVoltage24VSupport &&& ulGpioSelMask == ulGpioSelMask
    else false) = fSupported
  split_ifs
  · exact Or.inl ⟨rfl, netanaInvalidParameter_ne⟩
  · exact Or.inl ⟨rfl, netanaInvalidParameter_ne⟩
  · exact Or.inr ⟨_, rfl, voltageLoop_frame _ _ _ _⟩
  · exact Or.inl ⟨rfl, netanaInvalidParameter_ne⟩

/-- How `netana_open_device` can end: with every GPIO at its default, or with nothing changed. -/
theorem netanaOpenDevice_cases (ulFilter : BitVec 32) (x : DeviceSession) :
    ((x.netanaOpenDevice ulFilter).1 = x ∧ (x.netanaOpenDevice ulFilter).2 ≠ netanaNoError) ∨
    ((x.netanaOpenDevice ulFilter).2 = netanaNoError ∧
      (x.netanaOpenDevice ulFilter).1.records = x.records ∧
      x.records.GpiosShown (x.netanaOpenDevice ulFilter).1) := by
  by_cases h : (x.netanaOpenDevice ulFilter).2 = netanaNoError
  · exact Or.inr ⟨h, netanaOpenDevice_records x ulFilter, open_gpios_shown h⟩
  · left
    refine ⟨?_, h⟩
    unfold DeviceSession.netanaOpenDevice at h ⊢
    split_ifs at h ⊢
    · rfl
    · exact absurd rfl h
    · rfl

theorem gpioCall_open (szAliasName szDevice : List Char) (x : DeviceSession) (phDev : Bool)
    (ulFilter : BitVec 32) :
    gpioCall szAliasName x (.openDevice (some szDevice) phDev ulFilter) =
      if phDev = false then (x, netanaInvalidParameter)
      else if osStrnicmpEqual szDevice szAliasName netanaMaxDevicenamesize then
        x.netanaOpenDevice ulFilter
      else (x, netanaDeviceNotFound) := rfl

/-- A call that fails leaves the device as it is. -/
theorem gpioCall_error (szAliasName : List Char) (x : DeviceSession) (a : GpioCall)
    (h : (gpioCall szAliasName x a).2 ≠ netanaNoError) : (gpioCall szAliasName x a).1 = x := by
  cases a with
  | openDevice szDevice phDev ulFilter =>
    cases szDevice with
    | none => rfl
    | some szDevice =>
      rw [gpioCall_open] at h ⊢
      split_ifs at h ⊢
      · rfl
      · rcases netanaOpenDevice_cases ulFilter x with ⟨hsame, -⟩ | ⟨hok, -⟩
        · exact hsame
        · exact absurd hok h
      · rfl
  | setGpioMode ulGpio tMode =>
    rcases netanaSetGpioMode_cases ulGpio tMode x with ⟨hsame, -⟩ | ⟨b, hset, -⟩
    · exact hsame
    · exact absurd (congrArg Prod.snd hset) h
  | setGpioOutput ulGpio ulLevel =>
    rcases netanaSetGpioOutput_cases ulGpio ulLevel x with ⟨hsame, -⟩ | ⟨b, hset, -⟩
    · exact hsame
    · exact absurd (congrArg Prod.snd hset) h
  | setGpioVoltage ulGpioSelMask ulGpioVoltageSel =>
    rcases netanaSetGpioVoltage_cases ulGpioSelMask ulGpioVoltageSel x with
      ⟨hsame, -⟩ | ⟨g, hset, -⟩
    · exact hsame
    · exact absurd (congrArg Prod.snd hset) h

/-- One call keeps the invariant. -/
theorem gpioCall_inv (szAliasName : List Char) {x : DeviceSession} (hx : GpioInv x)
    (a : GpioCall) : GpioInv (gpioCall szAliasName x a).1 := by
  by_cases h : (gpioCall szAliasName x a).2 ≠ netanaNoError
  · rw [gpioCall_error szAliasName x a h]
    exact hx
  rw [not_not] at h
  cases a with
  | openDevice szDevice phDev ulFilter =>
    cases szDevice with
    | none => exact hx
    | some szDevice =>
      rw [gpioCall_open] at h ⊢
      split_ifs at h ⊢
      · exact hx
      · rcases netanaOpenDevice_cases ulFilter x with ⟨hsame, -⟩ | ⟨-, hrec, hshown⟩
        · rw [hsame]
          exact hx
        · have hcnt : (x.netanaOpenDevice ulFilter).1.ulGpioCnt = x.ulGpioCnt :=
            congrArg DeviceRecords.ulGpioCnt hrec
          have hdef : (x.netanaOpenDevice ulFilter).1.atDefaultGPIOs = x.atDefaultGPIOs :=
            congrArg DeviceRecords.atDefaultGPIOs hrec
          constructor
          · rw [hcnt, hdef]
            exact hx.defaults
          · rw [hcnt]
            exact hx.defaults.congr (fun i hi => congrArg GpioBlock.ulMode (hshown i hi))
              fun i hi => congrArg GpioBlock.uData (hshown i hi)
      · exact hx
  | setGpioMode ulGpio tMode =>
    rcases netanaSetGpioMode_cases ulGpio tMode x with ⟨-, hne⟩ | ⟨b, hset, -, -, -, hb, hpwm⟩
    · exact absurd h hne
    · change GpioInv (x.netanaSetGpioMode ulGpio tMode).1
      rw [hset]
      exact ⟨hx.defaults, hx.gpios.update hb hpwm⟩
  | setGpioOutput ulGpio ulLevel =>
    rcases netanaSetGpioOutput_cases ulGpio ulLevel x with ⟨-, hne⟩ | ⟨b, hset, hmode, hb⟩
    · exact absurd h hne
    · change GpioInv (x.netanaSetGpioOutput ulGpio ulLevel).1
      rw [hset]
      refine ⟨hx.defaults, hx.gpios.update hb fun hpwm => ?_⟩
      exact absurd (hmode.symm.trans hpwm) (by decide)
  | setGpioVoltage ulGpioSelMask ulGpioVoltageSel =>
    rcases netanaSetGpioVoltage_cases ulGpioSelMask ulGpioVoltageSel x with ⟨-, hne⟩ | ⟨g, hset, hg⟩
    · exact absurd h hne
    · change GpioInv (x.netanaSetGpioVoltage ulGpioSelMask ulGpioVoltageSel).1
      rw [hset]
      exact ⟨hx.defaults, hx.gpios.congr (fun i _ => (hg i).1) fun i _ => (hg i).2⟩

theorem gpioStep_inv (szAliasName : List Char) {x : DeviceSession} (hx : GpioInv x)
    (e : GpioEvent) : GpioInv (gpioStep szAliasName x e) := by
  cases e with
  | call a => exact gpioCall_inv szAliasName hx a
  | between y => exact ⟨hx.defaults, hx.gpios⟩

theorem gpio_run_inv (szAliasName : List Char) {x : DeviceSession} (hx : GpioInv x)
    (es : List GpioEvent) : GpioInv (es.foldl (gpioStep szAliasName) x) := by
  induction es generalizing x with
  | nil => exact hx
  | cons e es ih => exact ih (gpioStep_inv szAliasName hx e)

/-- A mode that has been set changes one GPIO, and not its voltage. -/
theorem setGpioMode_frame {x : DeviceSession} {ulGpio : BitVec 32} {tMode : GpioMode}
    (h : (x.netanaSetGpioMode ulGpio tMode).2 = netanaNoError) (i : ℕ) :
    (i ≠ ulGpio.toNat →
      (x.netanaSetGpioMode ulGpio tMode).1.aptGPIOs i = x.aptGPIOs i) ∧
    ((x.netanaSetGpioMode ulGpio tMode).1.aptGPIOs i).ulVoltage = (x.aptGPIOs i).ulVoltage := by
  rcases netanaSetGpioMode_cases ulGpio tMode x with ⟨-, hne⟩ | ⟨b, hset, -, -, hvolt, -⟩
  · exact absurd h hne
  rw [hset]
  change (i ≠ ulGpio.toNat → Function.update x.aptGPIOs ulGpio.toNat b i = _) ∧
    (Function.update x.aptGPIOs ulGpio.toNat b i).ulVoltage = _
  by_cases hi : i = ulGpio.toNat
  · rw [hi, Function.update_self]
    exact ⟨fun hne => absurd rfl hne, hvolt⟩
  · rw [Function.update_of_ne hi]
    exact ⟨fun _ => rfl, rfl⟩

/-- Where the defaults of a device fit their modes, its GPIOs do so at any time after it has been
added, and only what a call says is changed. -/
theorem gpio_configuration_kept (x : DeviceSession) (tDpm : DpmImage) (fAllocated : ℕ → Bool)
    (szAliasName : List Char) (es : List GpioEvent)
    (hdef : GpiosConfigured tDpm.ulGPIOCount.toNat tDpm.atGpios) :
    let y := es.foldl (gpioStep szAliasName) (x.netanaTkitDeviceadd tDpm fAllocated)
    GpiosConfigured y.ulGpioCnt.toNat y.aptGPIOs ∧
      (∀ ulGpio tMode, (y.netanaSetGpioMode ulGpio tMode).2 = netanaNoError →
        ∀ i, (i ≠ ulGpio.toNat →
            (y.netanaSetGpioMode ulGpio tMode).1.aptGPIOs i = y.aptGPIOs i) ∧
          ((y.netanaSetGpioMode ulGpio tMode).1.aptGPIOs i).ulVoltage =
            (y.aptGPIOs i).ulVoltage) ∧
      ∀ a, (gpioCall szAliasName y a).2 ≠ netanaNoError →
        (gpioCall szAliasName y a).1.aptGPIOs = y.aptGPIOs := by
  intro y
  have hadded : GpioInv (x.netanaTkitDeviceadd tDpm fAllocated) := ⟨hdef, hdef⟩
  refine ⟨(gpio_run_inv szAliasName hadded es).gpios, fun ulGpio tMode h i => ?_, fun a h => ?_⟩
  · exact setGpioMode_frame h i
  · exact congrArg DeviceSession.aptGPIOs (gpioCall_error szAliasName y a h)

/-- The card whose GPIOs are all off; one of them becomes a PWM. -/
theorem gpio_configuration_kept_pwm :
    GpiosConfigured 4 openCard.atGpios ∧
      let y := [GpioEvent.call (.openDevice (some "netANALYZER_0".toList) true 0#32),
        .call (.setGpioMode 2#32 ⟨gpioModeOutputPwm, 10#32, 100000000#32⟩),
        .call (.setGpioMode 1#32 ⟨gpioModeOutputPwm, 10#32, 10#32⟩)].foldl
          (gpioStep "netANALYZER_0".toList) addedCard
      GpiosConfigured y.ulGpioCnt.toNat y.aptGPIOs ∧
        (y.aptGPIOs 2).ulMode = gpioModeOutputPwm ∧ (y.aptGPIOs 1).ulMode = 0#32 := by
  have hoff : GpiosConfigured openCard.ulGPIOCount.toNat openCard.atGpios := by
    constructor
    · intro i _ j _ hm
      exact absurd hm (by decide : (0#32 : BitVec 32) ≠ gpioModeOutputPwm)
    · exact fun i _ => GpioBlock.configured_of_other
        (by decide : (0#32 : BitVec 32) ≠ gpioModeOutput)
        (by decide : (0#32 : BitVec 32) ≠ gpioModeOutputPwm)
  exact ⟨hoff, (gpio_configuration_kept _ openCard (fun _ => true) "netANALYZER_0".toList _ hoff).1,
    by rfl, by rfl⟩

end NetanaDriver
