namespace NetQuery

-- Sums start from the built-in zero and powers are the built-in ones, whatever else is imported.
attribute [scoped instance (high)] Zero.ofOfNat0 instPowNat

end NetQuery
