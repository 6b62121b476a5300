/-!
# Powers

Powers of integers, as in bounds of words and in decimal places.

## Design Notes

A power is that of the core library, with an exponent of natural numbers, wherever
it is written.  Other libraries bring powers of their own, which have the same
values and are other terms.
-/

attribute [instance (high), default_instance 20000] instPowNat
