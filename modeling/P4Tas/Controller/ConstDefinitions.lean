import P4Tas.Rust

/-! # Constants of the controller -/

namespace P4Tas.Controller

/-- The traffic generation ports of the four pipes. -/
def TG_PIPE_PORTS_TF2 : List U16 := [6, 134, 262, 390]

/-- The recirculation ports of the four pipes. -/
def RECIRC_PIPE_PORTS_DEV_TF2 : List U16 := [16, 192, 264, 440]

/-- Mask that filters for large values. -/
def MASK_MAX_UNDERFLOW : U64 := 0b111111111111111000000000000000000000000000000000

/-- Mask for the underflow that inaccurate packet generation causes. -/
def MASK_INTERVAL_SWITCH_UNDERFLOW : U64 := 0b111111111111111111111111111111111111111110000000

def APP_ID_TAS_CONTROL : U8 := 0

end P4Tas.Controller
