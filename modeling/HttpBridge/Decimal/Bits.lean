namespace HttpBridge.Decimal

def signBit : Nat := 1 <<< 63

def fractionSize : Nat := 1 <<< 52

def infinityBits : Nat := 0x7FF0000000000000

end HttpBridge.Decimal
